import Mathlib.Data.List.Forall2
import Questionnaire.Proofs.Source.Containers
import Questionnaire.Proofs.Source.Run

/-!
# Containers mirror the markers

The markers of a source make an outline: each of them belongs to the last marker
of its parent (`Outline.add`). The containers of a survey mirror it. On each level
they are the markers in order, behind at most one container that no marker began
(`Mirrors`), and such a section has something in it. Every line preserves this
(`Outlined.read`, `Furnished.read`), so it holds of the survey
(`mirrors_of_compile`).
-/

namespace Questionnaire

open Text

/-! ## Shapes -/

/-- The title of a page with those of its sections. -/
def Page.shape (page : Page) : Text × List (Option Text) :=
  (page.title, page.sections.map Section.title)

/-- The name of a block with the shapes of its pages. -/
def Block.shape (block : Block) : Text × List (Text × List (Option Text)) :=
  (block.name, block.pages.map Page.shape)

/-- A section without a title has something in it. -/
def Section.IsFurnished (part : Section) : Prop := part.title = none → part.items ≠ []

/-- The sections of a page without a title have something in them. -/
def Page.IsFurnished (page : Page) : Prop := ∀ part ∈ page.sections, part.IsFurnished

namespace Source

/-! ## Markers and outlines -/

/-- A marker of a container. -/
inductive Marker where
  /-- A block begins. -/
  | block (name : Text)
  /-- A page begins. -/
  | page (title : Text)
  /-- A section begins. -/
  | heading (title : Text)
deriving DecidableEq, Repr

/-- The marker that a line is. -/
def Line.marker? (line : Line) : Option Marker :=
  match line.kind with
  | .block => some (.block line.value)
  | .page => some (.page line.value)
  | .heading => some (.heading line.value)
  | _ => none

/-- The marker that the line of a step is. -/
def Step.marker? (step : Step) : Option Marker :=
  (step.before.lineOf? step.raw).bind Line.marker?

/-- What markers of one level make of what stands below them. -/
structure Outline (β : Type) where
  /-- What stands before the first of them. -/
  front : β
  /-- Their labels in order, each with what stands below it. -/
  marked : List (Text × β) := []
deriving DecidableEq, Repr, Inhabited

namespace Outline

variable {β : Type}

/-- One more marker of the level. -/
def mark [Inhabited β] (label : Text) (o : Outline β) : Outline β :=
  { o with marked := o.marked ++ [(label, default)] }

/-- What stands below the last marker changed, or in front if there is none. -/
def last (change : β → β) (o : Outline β) : Outline β :=
  if o.marked.isEmpty then { o with front := change o.front }
  else { o with marked := changeLast (fun marker => (marker.1, change marker.2)) o.marked }

/-- **One more marker**, below the last one of its parent. -/
def add (o : Outline (Outline (List Text))) : Marker → Outline (Outline (List Text))
  | .block name => o.mark name
  | .page title => o.last (mark title)
  | .heading title => o.last (last (· ++ [title]))

/-- The outline that markers make. -/
def ofMarkers (markers : List Marker) : Outline (Outline (List Text)) :=
  markers.foldl add default

@[simp] theorem last_of_nil (change : β → β) (front : β) :
    (⟨front, []⟩ : Outline β).last change = ⟨change front, []⟩ := rfl

@[simp] theorem last_concat (change : β → β) (front : β) (marked : List (Text × β))
    (marker : Text × β) : (⟨front, marked ++ [marker]⟩ : Outline β).last change
      = ⟨front, marked ++ [(marker.1, change marker.2)]⟩ := by
  simp [last]

@[simp] theorem last_id (o : Outline β) : o.last id = o := by
  obtain ⟨front, marked⟩ := o
  rcases List.eq_nil_or_concat marked with rfl | ⟨init, marker, rfl⟩
  · rfl
  · simp

end Outline

/-! ## Mirroring -/

/-- The sections of a page have its headings for titles, behind at most one that has
no title. -/
def Headed (headings : List Text) (titles : List (Option Text)) : Prop :=
  titles = headings.map some ∨ titles = none :: headings.map some

namespace Headed

variable {headings : List Text} {titles : List (Option Text)}

theorem concat (h : Headed headings titles) (title : Text) :
    Headed (headings ++ [title]) (titles ++ [some title]) :=
  h.imp (fun h => by simp [h]) fun h => by simp [h]

theorem eq_nil (h : Headed headings []) : headings = [] := by
  simpa [Headed] using h

end Headed

/-- **Containers of one level mirror the markers**: they are the markers in order, each
with what stands below it, and behind at most one container without a label, which has
what stands before the first marker. -/
inductive Mirrors {β γ : Type} [Inhabited β] (Holds : β → γ → Prop) :
    Outline β → List (Text × γ) → Prop where
  /-- Each container has its marker. -/
  | marked {marked : List (Text × β)} {containers : List (Text × γ)}
      (h : List.Forall₂ (fun marker c => c.1 = marker.1 ∧ Holds marker.2 c.2) marked containers) :
      Mirrors Holds ⟨default, marked⟩ containers
  /-- The first container has none. -/
  | implicit {front : β} {inside : γ} {marked : List (Text × β)} {containers : List (Text × γ)}
      (hfront : Holds front inside)
      (h : List.Forall₂ (fun marker c => c.1 = marker.1 ∧ Holds marker.2 c.2) marked containers) :
      Mirrors Holds ⟨front, marked⟩ (([], inside) :: containers)

theorem forall₂_concat_right {α β : Type} {R : α → β → Prop} {l : List α} {l' : List β} {b : β}
    (h : List.Forall₂ R l (l' ++ [b])) :
    ∃ init a, l = init ++ [a] ∧ List.Forall₂ R init l' ∧ R a b := by
  have hfront := List.forall₂_take_append l l' [b] h
  have hlast := List.forall₂_drop_append l l' [b] h
  obtain ⟨a, rest, hab, hrest, hdrop⟩ := List.forall₂_cons_right_iff.mp hlast
  rw [List.forall₂_nil_right_iff.mp hrest] at hdrop
  exact ⟨l.take l'.length, a, by rw [← hdrop, List.take_append_drop], hfront, hab⟩

namespace Mirrors

variable {β γ : Type} [Inhabited β] {Holds : β → γ → Prop} {o : Outline β}
  {containers : List (Text × γ)} {label : Text} {inside inside' : γ}

theorem eq_default (h : Mirrors Holds o []) : o = default := by
  cases h with
  | marked h =>
      rw [List.forall₂_nil_right_iff.mp h]
      rfl

/-- A marker begins one more container. -/
theorem mark (h : Mirrors Holds o containers) (hinside : Holds default inside) :
    Mirrors Holds (o.mark label) (containers ++ [(label, inside)]) := by
  have hmore : ∀ {marked : List (Text × β)} {containers : List (Text × γ)},
      List.Forall₂ (fun marker c => c.1 = marker.1 ∧ Holds marker.2 c.2) marked containers →
      List.Forall₂ (fun marker c => c.1 = marker.1 ∧ Holds marker.2 c.2)
        (marked ++ [(label, default)]) (containers ++ [(label, inside)]) := fun h =>
    List.rel_append h (.cons ⟨rfl, hinside⟩ .nil)
  cases h with
  | marked h => exact .marked (hmore h)
  | implicit hfront h => exact .implicit hfront (hmore h)

/-- What stands below the last marker changes with the last container. -/
theorem last {change : β → β} (h : Mirrors Holds o (containers ++ [(label, inside)]))
    (hchange : ∀ below, Holds below inside → Holds (change below) inside') :
    Mirrors Holds (o.last change) (containers ++ [(label, inside')]) := by
  have hlast : ∀ {marked : List (Text × β)} {containers : List (Text × γ)},
      List.Forall₂ (fun marker c => c.1 = marker.1 ∧ Holds marker.2 c.2) marked
        (containers ++ [(label, inside)]) →
      ∃ init marker, marked = init ++ [marker] ∧
        List.Forall₂ (fun marker c => c.1 = marker.1 ∧ Holds marker.2 c.2)
          (init ++ [(marker.1, change marker.2)]) (containers ++ [(label, inside')]) := by
    intro marked containers h
    obtain ⟨init, marker, rfl, hinit, hlabel, hbelow⟩ := forall₂_concat_right h
    exact ⟨init, marker, rfl, List.rel_append hinit (.cons ⟨hlabel, hchange _ hbelow⟩ .nil)⟩
  generalize hall : containers ++ [(label, inside)] = all at h
  cases h with
  | marked h =>
      subst hall
      obtain ⟨init, marker, rfl, hmarked⟩ := hlast h
      rw [Outline.last_concat]
      exact .marked hmarked
  | implicit hfront h =>
      cases containers with
      | nil =>
          obtain ⟨⟨rfl, rfl⟩, rfl⟩ := by simpa using hall
          rw [List.forall₂_nil_right_iff.mp h, Outline.last_of_nil]
          exact .implicit (hchange _ hfront) .nil
      | cons first containers =>
          obtain ⟨rfl, rfl⟩ := List.cons.inj hall
          obtain ⟨init, marker, rfl, hmarked⟩ := hlast h
          rw [Outline.last_concat]
          exact .implicit hfront hmarked

/-- Where there is no container yet, one may begin without a marker. -/
theorem begin (h : Mirrors Holds o []) {change : β → β} (hinside : Holds (change default) inside) :
    Mirrors Holds (o.last change) [([], inside)] := by
  rw [h.eq_default]
  exact .implicit hinside .nil

end Mirrors

namespace State

/-! ## The shape of a state -/

/-- The shapes of the pages of the open block. -/
def pageShapes (st : State) : List (Text × List (Option Text)) := st.openPages.map Page.shape

/-- The shapes of all blocks, the open one last. -/
def shape (st : State) : List (Text × List (Text × List (Option Text))) :=
  st.blocks.map Block.shape ++ [(st.block.name, st.pageShapes)]

/-- The shapes of two states are the same, as far as containers are finished, open and
closed. -/
structure SameShape (st st' : State) : Prop where
  blocks : st'.blocks.map Block.shape = st.blocks.map Block.shape
  isImplicit : st'.isImplicit = st.isImplicit
  name : st'.block.name = st.block.name
  pages : st'.block.pages.map Page.shape = st.block.pages.map Page.shape
  page : st'.page?.map Page.shape = st.page?.map Page.shape
  part : st'.part?.map Section.title = st.part?.map Section.title

theorem SameContainers.sameShape {st st' : State} (h : SameContainers st st') :
    SameShape st st' where
  blocks := by rw [h.blocks]
  isImplicit := h.isImplicit
  name := (Block.bare_eq_iff.mp h.block).1
  pages := by rw [(Block.bare_eq_iff.mp h.block).2]
  page := by
    have h := congrArg (Option.map Page.shape) h.page
    rw [Option.map_map, Option.map_map] at h
    exact h
  part := by
    have h := congrArg (Option.map Section.title) h.part
    rw [Option.map_map, Option.map_map] at h
    exact h

theorem SameShape.wholePage? {st st' : State} (h : SameShape st st') :
    st'.wholePage?.map Page.shape = st.wholePage?.map Page.shape := by
  have hwhole : ∀ st : State, st.wholePage?.map Page.shape = (st.page?.map Page.shape).map
      fun page => (page.1, page.2 ++ (st.part?.map Section.title).toList) := by
    intro st
    cases hpage : st.page? <;> cases hpart : st.part? <;>
      simp [State.wholePage?, Page.shape, hpage, hpart]
  rw [hwhole, hwhole, h.page, h.part]

theorem SameShape.pageShapes {st st' : State} (h : SameShape st st') :
    st'.pageShapes = st.pageShapes := by
  have htail : st'.wholePage?.toList.map Page.shape = st.wholePage?.toList.map Page.shape := by
    rw [← Option.toList_map, h.wholePage?, Option.toList_map]
  rw [State.pageShapes, State.pageShapes, openPages, openPages, List.map_append, List.map_append,
    h.pages, htail]

/-- **The state mirrors an outline.** -/
structure Outlined (o : Outline (Outline (List Text))) (st : State) : Prop where
  /-- A block without a marker is the first one. -/
  first : st.isImplicit = true → st.blocks = [] ∧ o.marked = []
  /-- Where no page is open there is none in the block. -/
  pages : st.page? = none → st.block.pages = [] ∧ st.part? = none
  /-- Where no section is open there is none in the page. -/
  parts : st.part? = none → ∀ page ∈ st.page?, page.sections = []
  /-- The open containers are last. -/
  mirrors : Mirrors (Mirrors Headed) o st.shape

namespace Outlined

variable {o : Outline (Outline (List Text))} {st st' : State}

theorem empty : Outlined default {} where
  first := fun _ => ⟨rfl, rfl⟩
  pages := fun _ => ⟨rfl, rfl⟩
  parts := fun _ _ h => by cases h
  mirrors := .implicit (.marked .nil) .nil

theorem same (h : Outlined o st) (hsame : SameShape st st') : Outlined o st' where
  first := fun himplicit => by
    obtain ⟨hblocks, hmarked⟩ := h.first (hsame.isImplicit ▸ himplicit)
    have hsame := hsame.blocks
    rw [hblocks, List.map_nil, List.map_eq_nil_iff] at hsame
    exact ⟨hsame, hmarked⟩
  pages := fun hpage => by
    have hnone : st.page? = none := by simpa [hpage] using hsame.page.symm
    obtain ⟨hpages, hpart⟩ := h.pages hnone
    have hsame' := hsame.pages
    rw [hpages, List.map_nil, List.map_eq_nil_iff] at hsame'
    exact ⟨hsame', by simpa [hpart] using hsame.part⟩
  parts := fun hpart page hpage => by
    have hnone : st.part? = none := by simpa [hpart] using hsame.part.symm
    have hshape := hsame.page
    rw [Option.mem_def.mp hpage] at hshape
    obtain ⟨old, hold, hshape⟩ := Option.map_eq_some_iff.mp hshape.symm
    have hsections := congrArg Prod.snd hshape
    rw [Page.shape, h.parts hnone old hold] at hsections
    simpa [Page.shape] using hsections.symm
  mirrors := by
    rw [shape, hsame.blocks, hsame.name, hsame.pageShapes]
    exact h.mirrors

/-- The pages of the open block change with what stands below the last block marker. -/
theorem changePages {change : Outline (List Text) → Outline (List Text)} (h : Outlined o st)
    (hblocks : st'.blocks = st.blocks) (hname : st'.block.name = st.block.name)
    (hchange : ∀ below, Mirrors Headed below st.pageShapes →
      Mirrors Headed (change below) st'.pageShapes) :
    Mirrors (Mirrors Headed) (o.last change) st'.shape := by
  rw [shape, hblocks, hname]
  exact h.mirrors.last hchange

/-! ### Filling -/

/-- **A page that is opened without a marker is the first of its block.** -/
theorem ensurePage (h : Outlined o st) : Outlined o st.ensurePage := by
  cases hpage : st.page? with
  | some page =>
      refine h.same ⟨rfl, rfl, rfl, rfl, ?_, rfl⟩
      rw [State.ensurePage, hpage]
      rfl
  | none =>
      obtain ⟨hpages, hpart⟩ := h.pages hpage
      refine ⟨h.first, fun hnone => by simp [State.ensurePage] at hnone, fun _ page hmem => ?_, ?_⟩
      · rw [State.ensurePage, hpage] at hmem
        obtain rfl := Option.some.inj hmem
        rfl
      · rw [← Outline.last_id o]
        refine h.changePages rfl rfl fun below hbelow => ?_
        have hold : st.pageShapes = [] := by
          simp [pageShapes, openPages, wholePage?, hpages, hpage]
        have hnew : st.ensurePage.pageShapes = [([], [])] := by
          simp [pageShapes, openPages, wholePage?, State.ensurePage, hpages, hpage, hpart,
            Page.shape]
        rw [hold] at hbelow
        rw [hnew, ← Outline.last_id below]
        exact hbelow.begin (.inl rfl)

/-- **A section that is opened without a marker is the first of its page.** -/
theorem openSection (h : Outlined o st) : Outlined o st.openSection := by
  have hopen := h.ensurePage
  rw [State.openSection]
  obtain ⟨page, hpage⟩ : ∃ page, st.ensurePage.page? = some page := ⟨_, rfl⟩
  cases hpart : st.part? with
  | some part =>
      refine hopen.same ⟨rfl, rfl, rfl, rfl, rfl, ?_⟩
      show _ = st.part?.map Section.title
      rw [hpart]
      rfl
  | none =>
      have hsections := hopen.parts hpart page hpage
      refine ⟨hopen.first, fun hnone => by simp [State.ensurePage] at hnone,
        fun hnone => by simp at hnone, ?_⟩
      rw [← Outline.last_id o]
      refine hopen.changePages rfl rfl fun below hbelow => ?_
      have hold : st.ensurePage.pageShapes
          = st.block.pages.map Page.shape ++ [(page.title, [])] := by
        rw [pageShapes, openPages, wholePage?, hpage]
        simp [State.ensurePage, hpart, Page.shape, hsections]
      have hnew : pageShapes { st.ensurePage with part? := some {} }
          = st.block.pages.map Page.shape ++ [(page.title, [none])] := by
        rw [pageShapes, openPages, wholePage?, hpage]
        simp [State.ensurePage, Page.shape, hsections]
      rw [hold] at hbelow
      rw [Option.getD_none, hnew, ← Outline.last_id below]
      refine hbelow.last fun headings hheaded => ?_
      rw [hheaded.eq_nil]
      exact .inr rfl

theorem fill (h : Outlined o st) (hfill : Fill st st') : Outlined o st' := by
  cases hfill with
  | alike hsame _ => exact h.same hsame.sameShape
  | page hpage => exact hpage ▸ h.ensurePage
  | item item hsame =>
      have hitem : SameShape st.openSection (st.addItem item) := ⟨rfl, rfl, rfl, rfl, rfl, rfl⟩
      exact (h.openSection.same hitem).same hsame.sameShape
  | question hsame _ => exact h.openSection.same hsame.sameShape

theorem fills (h : Outlined o st) (hfills : Fills st st') : Outlined o st' :=
  hfills.preserves (fun h => h.fill) h

/-! ### Markers -/

theorem readPage (h : Outlined o st) (title : Text) :
    Outlined (o.add (.page title)) { st.closePage with page? := some { title } } := by
  have hsettled := h.fills (.settle st)
  obtain ⟨hblocks, himplicit, hblock, -, -⟩ :=
    closePage_facts fun hpage => (hsettled.pages hpage).2
  generalize st.closeQuestion.closeText = settled at hsettled hblocks himplicit hblock
  refine ⟨fun hfirst => ?_, fun hnone => by simp at hnone, fun _ page hpage => ?_, ?_⟩
  · obtain ⟨hnil, hmarked⟩ := hsettled.first (himplicit ▸ hfirst)
    exact ⟨hblocks.trans hnil, by rw [Outline.add, Outline.last, hmarked]; rfl⟩
  · obtain rfl := Option.some.inj hpage
    rfl
  · refine hsettled.changePages hblocks (by rw [hblock]) fun below hbelow => ?_
    have hnew : pageShapes { st.closePage with page? := some { title } }
        = settled.pageShapes ++ [(title, [])] := by
      simp [pageShapes, openPages, wholePage?, hblock, Page.shape]
    rw [hnew]
    exact hbelow.mark (.inl rfl)

theorem readHeading (h : Outlined o st) (title : Text) : Outlined (o.add (.heading title))
    { st.closeSection.ensurePage with part? := some { title := some title } } := by
  have hopen := (h.fills (.settle st)).ensurePage
  rw [ensurePage_closeSection]
  generalize st.closeQuestion.closeText = settled at hopen
  obtain ⟨page, hpage⟩ : ∃ page, settled.ensurePage.page? = some page := ⟨_, rfl⟩
  refine ⟨fun hfirst => ?_, fun hnone => by simp at hnone, fun hnone => by simp at hnone, ?_⟩
  · obtain ⟨hnil, hmarked⟩ := hopen.first hfirst
    exact ⟨hnil, by rw [Outline.add, Outline.last, hmarked]; rfl⟩
  · refine hopen.changePages rfl rfl fun below hbelow => ?_
    rw [pageShapes, openPages, wholePage?, hpage, Option.map_some, Option.toList_some,
      List.map_append, List.map_singleton, Page.shape] at hbelow
    have hnew : pageShapes
        { settled with
          page? := some (settled.ensurePage.wholePage?.getD {})
          part? := some { title := some title } }
        = settled.block.pages.map Page.shape
          ++ [(page.title, (page.sections ++ settled.part?.toList).map Section.title
            ++ [some title])] := by
      rw [State.wholePage?, hpage]
      simp [pageShapes, openPages, wholePage?, Page.shape, State.ensurePage]
    rw [hnew]
    exact hbelow.last fun headings hheaded => hheaded.concat title

/-- **A block that is closed is kept unless no marker began it and nothing is in it.** -/
theorem closeBlock (h : Outlined o st) :
    Mirrors (Mirrors Headed) o (st.closeBlock.blocks.map Block.shape) := by
  have hsettled := h.fills (.settle st)
  obtain ⟨hblocks, himplicit, hblock, -, -⟩ :=
    closePage_facts fun hpage => (hsettled.pages hpage).2
  generalize st.closeQuestion.closeText = settled at hsettled hblocks himplicit hblock
  have hmirrors := hsettled.mirrors
  rw [shape] at hmirrors
  simp only [State.closeBlock, hblocks]
  split
  · rename_i hvacant
    simp only [Bool.and_eq_true, Block.isVacant, List.isEmpty_iff, himplicit, hblock] at hvacant
    obtain ⟨hfirst, ⟨hpages, -⟩, -⟩ := hvacant
    obtain ⟨hnil, hmarked⟩ := hsettled.first hfirst
    rw [hnil, List.map_nil, List.nil_append, pageShapes, hpages, List.map_nil] at hmirrors
    rw [hnil, List.map_nil]
    -- The only container began without a marker and has nothing in it.
    generalize settled.block.name = name at hmirrors
    cases hmirrors with
    | marked h =>
        obtain rfl : _ = [] := hmarked
        cases h
    | implicit hfront _ =>
        obtain rfl : _ = [] := hmarked
        rw [hfront.eq_default]
        exact .marked .nil
  · rw [List.map_append, hblock]
    exact hmirrors

theorem readBlock (h : Outlined o st) (name : Text) : Outlined (o.add (.block name))
    { st.closeBlock with block := { name }, isImplicit := false } := by
  have hclosed : st.closeBlock.page? = none ∧ st.closeBlock.part? = none := by
    obtain ⟨-, -, -, hpage, hpart⟩ :=
      closePage_facts fun hpage => ((h.fills (.settle st)).pages hpage).2
    exact ⟨hpage, hpart⟩
  refine ⟨fun hfirst => absurd hfirst Bool.false_ne_true, fun _ => ⟨rfl, hclosed.2⟩, fun _ page hpage => ?_, ?_⟩
  · rw [hclosed.1] at hpage
    cases hpage
  · have hnew : shape { st.closeBlock with block := { name }, isImplicit := false }
        = st.closeBlock.blocks.map Block.shape ++ [(name, [])] := by
      simp [shape, pageShapes, openPages, wholePage?, hclosed]
    rw [hnew]
    exact h.closeBlock.mark (.marked .nil)

/-- A level opens a page at most. -/
theorem readLevel (h : Outlined o st) (level : Nat) : Outlined o (st.readLevel level) := by
  rw [State.readLevel]
  split
  · exact h.same ⟨rfl, rfl, rfl, rfl, rfl, rfl⟩
  · exact h.ensurePage.same ⟨rfl, rfl, rfl, rfl, rfl, rfl⟩

/-- **Every line keeps the state in step with the outline of the markers.** -/
theorem read {past : List Step} {step : Step}
    (h : Outlined (Outline.ofMarkers (past.filterMap Step.marker?)) step.before)
    (hread : step.before.read step.number step.raw step.behind = .ok step.after) :
    Outlined (Outline.ofMarkers ((past ++ [step]).filterMap Step.marker?)) step.after := by
  have hquiet := h.fills (.quiet step.before)
  have houtline : Outline.ofMarkers ((past ++ [step]).filterMap Step.marker?)
      = step.marker?.toList.foldl Outline.add
          (Outline.ofMarkers (past.filterMap Step.marker?)) := by
    cases hstep : step.marker? <;> simp [Outline.ofMarkers, hstep]
  rw [houtline]
  have hmarker : ∀ {line}, step.before.lineOf? step.raw = some line →
      step.marker? = line.marker? := fun hline => by rw [Step.marker?, hline, Option.bind_some]
  generalize hafter : step.after = st' at hread
  cases read_arranges hread with
  | fills hother hfills =>
      have hnone : step.marker? = none := by
        rw [Step.marker?]
        cases hline : step.before.lineOf? step.raw with
        | none => rfl
        | some line =>
            have hkind := hother line hline
            rw [Option.bind_some, Line.marker?]
            split <;> simp_all [LineKind.isArranging]
      rw [hnone]
      exact h.fills hfills
  | page hline hkind =>
      rw [hmarker hline, Line.marker?, hkind]
      exact hquiet.readPage _
  | block hline hkind =>
      rw [hmarker hline, Line.marker?, hkind]
      exact hquiet.readBlock _
  | heading hline hkind =>
      rw [hmarker hline, Line.marker?, hkind]
      exact hquiet.readHeading _
  | level hline hkind =>
      rw [hmarker hline, Line.marker?, hkind]
      exact hquiet.readLevel _

end Outlined

/-! ## Sections without a title -/

/-- **Sections without a title have something in them**, though what belongs in the open one
may still be an open question. -/
structure Furnished (st : State) : Prop where
  /-- Those of the finished blocks. -/
  blocks : ∀ block ∈ st.blocks, ∀ page ∈ block.pages, page.IsFurnished
  /-- Those of the open block. -/
  pages : ∀ page ∈ st.block.pages, page.IsFurnished
  /-- Those of the open page. -/
  page : ∀ page ∈ st.page?, page.IsFurnished
  /-- The open one. -/
  part : ∀ part ∈ st.part?, part.IsFurnished ∨ st.question?.isSome = true
  /-- A section is open only in a page. -/
  inside : st.page? = none → st.part? = none

namespace Furnished

variable {st st' : State}

theorem empty : Furnished {} :=
  ⟨fun _ h => absurd h List.not_mem_nil, fun _ h => absurd h List.not_mem_nil,
    fun _ h => (by cases h), fun _ h => (by cases h), fun _ => rfl⟩

theorem alike (h : Furnished st) (hsame : SameContainers st st')
    (hquestion : st.question?.isSome = true → st'.question?.isSome = true) : Furnished st' where
  blocks := hsame.blocks ▸ h.blocks
  pages := (Block.bare_eq_iff.mp hsame.block).2 ▸ h.pages
  page := by
    intro page hpage
    have hbare := hsame.page
    rw [Option.mem_def.mp hpage] at hbare
    obtain ⟨old, hold, hbare⟩ := Option.map_eq_some_iff.mp hbare.symm
    have hfurnished := h.page old hold
    rwa [Page.IsFurnished, (Page.bare_eq_iff.mp hbare).2] at hfurnished
  part := by
    intro part hpart
    have hbare := hsame.part
    rw [Option.mem_def.mp hpart] at hbare
    obtain ⟨old, hold, hbare⟩ := Option.map_eq_some_iff.mp hbare.symm
    obtain ⟨htitle, hitems⟩ := Section.bare_eq_iff.mp hbare
    refine (h.part old hold).imp (fun hfurnished => ?_) hquestion
    rwa [Section.IsFurnished, htitle, hitems] at hfurnished
  inside := fun hpage => by
    have hnone : st.page? = none := by simpa [hpage] using hsame.page.symm
    simpa [h.inside hnone] using hsame.part

theorem ensurePage (h : Furnished st) : Furnished st.ensurePage where
  blocks := h.blocks
  pages := h.pages
  page := by
    intro page hpage
    rw [State.ensurePage, Option.mem_some] at hpage
    cases hold : st.page? with
    | some old => exact h.page page (by rw [← hpage, hold]; rfl)
    | none =>
        rw [← hpage, hold]
        exact fun part hpart => absurd hpart List.not_mem_nil
  part := h.part
  inside := fun hnone => by simp [State.ensurePage] at hnone

/-- A section that is opened or gets an item has something in it, or a question is open. -/
theorem openPart (h : Furnished st) {part : Section} {question? : Option Question}
    (hpart : part.IsFurnished ∨ question?.isSome = true) :
    Furnished { st.ensurePage with part? := some part, question? } where
  blocks := h.blocks
  pages := h.pages
  page := h.ensurePage.page
  part := fun other hother => Option.some.inj hother ▸ hpart
  inside := fun hnone => by simp [State.ensurePage] at hnone

theorem fill (h : Furnished st) (hfill : Fill st st') : Furnished st' := by
  cases hfill with
  | alike hsame hquestion => exact h.alike hsame hquestion
  | page hpage => exact hpage ▸ h.ensurePage
  | item item hsame =>
      have hitem : ({ st.part?.getD {} with
          items := (st.part?.getD {}).items ++ [item] } : Section).IsFurnished :=
        fun _ => by simp
      have hopen : Furnished { st.addItem item with question? := st'.question? } :=
        h.openPart (.inl hitem)
      exact hopen.alike
        ⟨hsame.blocks, hsame.isImplicit, hsame.block, hsame.page, hsame.part, hsame.entries,
          hsame.isListed⟩ id
  | question hsame hquestion =>
      have hopen : Furnished { st.openSection with question? := st'.question? } :=
        h.openPart (.inr hquestion)
      exact hopen.alike
        ⟨hsame.blocks, hsame.isImplicit, hsame.block, hsame.page, hsame.part, hsame.entries,
          hsame.isListed⟩ id

theorem fills (h : Furnished st) (hfills : Fills st st') : Furnished st' :=
  hfills.preserves (fun h => h.fill) h

/-- Where no question is open the open section has something in it too. -/
theorem openPages (h : Furnished st) (hquestion : st.question? = none) :
    ∀ page ∈ st.openPages, page.IsFurnished := by
  intro page hpage
  rcases List.mem_append.mp hpage with hpage | hpage
  · exact h.pages page hpage
  · obtain ⟨opened, hopened, rfl⟩ := Option.map_eq_some_iff.mp (Option.mem_toList.mp hpage)
    intro part hpart
    rcases List.mem_append.mp hpart with hpart | hpart
    · exact h.page opened hopened part hpart
    · exact (h.part part (Option.mem_toList.mp hpart)).resolve_right (by simp [hquestion])

/-- What a page that is closed leaves behind. -/
theorem closePage (h : Furnished st) :
    (∀ block ∈ st.closePage.blocks, ∀ page ∈ block.pages, page.IsFurnished) ∧
      ∀ page ∈ st.closePage.block.pages, page.IsFurnished := by
  have hsettled := h.fills (.settle st)
  obtain ⟨hblocks, -, hblock, -, -⟩ := closePage_facts hsettled.inside
  rw [hblocks, hblock]
  exact ⟨hsettled.blocks, hsettled.openPages (by simp)⟩

theorem closeBlock (h : Furnished st) :
    ∀ block ∈ st.closeBlock.blocks, ∀ page ∈ block.pages, page.IsFurnished := by
  obtain ⟨hblocks, hpages⟩ := h.closePage
  intro block hblock
  simp only [State.closeBlock] at hblock
  split at hblock
  · exact hblocks block hblock
  · rcases List.mem_append.mp hblock with hblock | hblock
    · exact hblocks block hblock
    · exact List.mem_singleton.mp hblock ▸ hpages

/-- **Every line leaves something in each section without a title.** -/
theorem read {number : Nat} {raw : Text} {after : List Text} (h : Furnished st)
    (hread : st.read number raw after = .ok st') : Furnished st' := by
  have hquiet := h.fills (.quiet st)
  cases read_arranges hread with
  | fills _ hfills => exact h.fills hfills
  | @page line _ _ =>
      obtain ⟨hblocks, hpages⟩ := hquiet.closePage
      refine ⟨hblocks, hpages, fun page hpage => ?_, fun part hpart => ?_, fun hnone => ?_⟩
      · obtain rfl := Option.some.inj hpage
        exact fun part hpart => absurd hpart List.not_mem_nil
      · simp at hpart
      · simp at hnone
  | @block line _ _ =>
      refine ⟨hquiet.closeBlock, fun page hpage => absurd hpage List.not_mem_nil,
        fun page hpage => ?_, fun part hpart => ?_, fun _ => ?_⟩
      · simp [State.closeBlock] at hpage
      · simp [State.closeBlock] at hpart
      · simp [State.closeBlock]
  | @heading line _ _ =>
      have hopen := (hquiet.fills (.settle _)).ensurePage
      have hpages := hopen.openPages (by simp [State.ensurePage])
      rw [ensurePage_closeSection]
      refine ⟨hopen.blocks, hopen.pages, fun page hpage => hpages page ?_, fun part hpart => ?_,
        fun hnone => ?_⟩
      · refine List.mem_append_right _ (Option.mem_toList.mpr ?_)
        rw [← Option.mem_def.mp hpage]
        rfl
      · obtain rfl := Option.some.inj hpart
        exact .inl fun htitle => by simp at htitle
      · simp at hnone
  | level _ _ =>
      rw [State.readLevel]
      split
      · exact ⟨hquiet.blocks, hquiet.pages, hquiet.page, hquiet.part, hquiet.inside⟩
      · have hpage := hquiet.ensurePage
        exact ⟨hpage.blocks, hpage.pages, hpage.page, hpage.part, hpage.inside⟩

end Furnished
end State

/-! ## Whole sources -/

/-- **Containers mirror the markers.** The blocks of a survey are the block markers of its
source in order, the pages of each block its page markers, and the sections of each page
its section markers, on each level behind at most one container without a marker; and a
section without a title has something in it. -/
theorem mirrors_of_compile {source name : Text} {isChecked : Bool} {survey : Survey}
    (h : (compile source name isChecked).result = .ok survey) :
    Mirrors (Mirrors Headed)
        (Outline.ofMarkers ((steps 0 {} (sourceLines source)).filterMap Step.marker?))
        (survey.blocks.map Block.shape) ∧
      ∀ block ∈ survey.blocks, ∀ page ∈ block.pages, ∀ part ∈ page.sections,
        part.title = none → part.items ≠ [] := by
  have hstart : State.Outlined (Outline.ofMarkers (([] : List Step).filterMap Step.marker?)) {} :=
    .empty
  have houtlined := readAll_history
    (P := fun past st => State.Outlined (Outline.ofMarkers (past.filterMap Step.marker?)) st)
    (fun _ _ => State.Outlined.read) 0 hstart (sourceLines source)
  rw [List.nil_append] at houtlined
  have hfurnished := State.readAll_invariant (fun _ _ _ _ _ => State.Furnished.read) 0 .empty
    (sourceLines source)
  rw [survey_of_compileLines (compileLines_of_compile h), State.survey]
  obtain ⟨last, hfills, hfinish⟩ := (State.readAll 0 {} (sourceLines source)).1.finish_cases
  rw [hfinish]
  exact ⟨(houtlined.fills hfills).closeBlock, (hfurnished.fills hfills).closeBlock⟩

/-- Text and a section before the first block, and a section before the first page. -/
def outlinedSource : Text :=
  "Welcome\n## Intro\nBLOCK: Home\n## Before\n# Rooms\nQ: Beds\n## Kitchen\nQ: Size".toList

/-- The survey of `outlinedSource`. -/
def outlinedSurvey : Survey := (compile outlinedSource [] true).result.toOption.getD { name := [] }

theorem mirrors_outlinedSurvey :
    Mirrors (Mirrors Headed)
        (Outline.ofMarkers [.heading "Intro".toList, .block "Home".toList,
          .heading "Before".toList, .page "Rooms".toList, .heading "Kitchen".toList])
        (outlinedSurvey.blocks.map Block.shape) ∧
      outlinedSurvey.blocks.map Block.shape
        = [([], [([], [none, some "Intro".toList])]),
          ("Home".toList, [([], [some "Before".toList]),
            ("Rooms".toList, [none, some "Kitchen".toList])])] := by
  have hmirrors := (mirrors_of_compile
    (show (compile outlinedSource [] true).result = .ok outlinedSurvey by rfl)).1
  have hmarkers : (steps 0 {} (sourceLines outlinedSource)).filterMap Step.marker?
      = [.heading "Intro".toList, .block "Home".toList, .heading "Before".toList,
        .page "Rooms".toList, .heading "Kitchen".toList] := by decide +kernel
  rw [hmarkers] at hmirrors
  exact ⟨hmirrors, by decide +kernel⟩

end Source
end Questionnaire
