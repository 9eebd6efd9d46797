import Questionnaire.Proofs.Source.Last
import Questionnaire.Proofs.Source.Taking

/-!
# The navigation of a state

Of the navigation only four things can change: the entries, the number of
finished pages, whether a page is open, and whether that page is listed. Most
lines leave them as they are, apart from opening a page (`SameIndex`); only a
page that is closed and a level do more. From this the run keeps the navigation
in order (`Navigated`): positions are positions of finished pages, a listed page
is open, and an entry without pages is the only one and that of the open page.
-/

namespace Questionnaire.Source

open Text

namespace State

/-! ## Lines that leave the navigation alone -/

/-- The navigation of two states is the same, though a page may have been
opened. -/
structure SameIndex (st st' : State) : Prop where
  entries : st'.entries = st.entries
  pageCount : st'.pageCount = st.pageCount
  isListed : st'.isListed = st.isListed
  page : st.page?.isSome = true → st'.page?.isSome = true

namespace SameIndex

variable {st st' st'' : State}

theorem refl (st : State) : SameIndex st st := ⟨rfl, rfl, rfl, id⟩

theorem trans (h : SameIndex st st') (h' : SameIndex st' st'') : SameIndex st st'' :=
  ⟨h'.entries.trans h.entries, h'.pageCount.trans h.pageCount, h'.isListed.trans h.isListed,
    fun hpage => h'.page (h.page hpage)⟩

theorem ensurePage (st : State) : SameIndex st st.ensurePage := ⟨rfl, rfl, rfl, fun _ => rfl⟩

theorem closeQuestion (st : State) : SameIndex st st.closeQuestion := by
  rw [State.closeQuestion]
  split
  · exact refl st
  · exact ⟨rfl, rfl, rfl, fun _ => rfl⟩

theorem closeText (st : State) : SameIndex st st.closeText := by
  rw [State.closeText]
  split
  · exact ⟨rfl, rfl, rfl, id⟩
  · exact ⟨rfl, rfl, rfl, fun _ => rfl⟩

theorem settle (st : State) : SameIndex st st.closeQuestion.closeText :=
  (closeQuestion st).trans (closeText _)

theorem closeSection (st : State) : SameIndex st st.closeSection := by
  refine (settle st).trans ?_
  rw [State.closeSection]
  generalize st.closeQuestion.closeText = settled
  split
  · exact refl settled
  · exact ⟨rfl, rfl, rfl, fun _ => rfl⟩

theorem write (holder : Holder) (aspect : Aspect) (value : Text) (st : State) :
    SameIndex st (st.write holder aspect value) := by
  refine ⟨?_, ?_, ?_, ?_⟩ <;> cases holder <;> cases aspect <;>
    simp [State.write, mapQuestion, mapOption, mapRow, mapBody, State.pageCount]

theorem setCapture (capture? : Option Capture) (st : State) :
    SameIndex st { st with capture? := capture? } := ⟨rfl, rfl, rfl, id⟩

theorem assign (holder : Holder) (aspect : Aspect) (line : Nat) (value : Text) (st : State) :
    SameIndex st (st.assign holder aspect line value) := by
  rcases assign_cases holder aspect line value st with ⟨text, h⟩ | ⟨capture, -, h⟩
  · exact h ▸ write holder aspect text st
  · exact h ▸ setCapture _ st

theorem endCapture (capture : Capture) (st : State) : SameIndex st (st.endCapture capture) :=
  (write _ _ _ st).trans ⟨rfl, rfl, rfl, id⟩

theorem readQuoted (capture : Capture) (raw : Text) (st : State) :
    SameIndex st (st.readQuoted capture raw) := by
  rw [State.readQuoted]
  split
  · exact endCapture _ st
  · exact setCapture _ st

theorem readText (raw : Text) (st : State) : SameIndex st (st.readText raw) := by
  rw [State.readText]
  split
  · exact ⟨rfl, rfl, rfl, id⟩
  · exact (closeQuestion st).trans ⟨rfl, rfl, rfl, id⟩

theorem readBlank (st : State) : SameIndex st st.readBlank := by
  rw [State.readBlank]
  split
  · exact ⟨rfl, rfl, rfl, id⟩
  · exact refl st

theorem readQuestion (text : Text) (after : List Text) (st : State) :
    SameIndex st (st.readQuestion text after) :=
  ((settle st).trans (ensurePage _)).trans ⟨rfl, rfl, rfl, id⟩

theorem readComputation (computed : Text × Text) (st : State) :
    SameIndex st (st.readComputation computed) := by
  refine (settle st).trans ?_
  rw [State.readComputation]
  generalize st.closeQuestion.closeText = settled
  split
  · exact ⟨rfl, rfl, rfl, fun _ => rfl⟩
  · exact ⟨rfl, rfl, rfl, id⟩

theorem readTooltip (line : Nat) (value : Text) (st : State) :
    SameIndex st (st.readTooltip line value) := by
  rw [State.readTooltip]
  split
  · exact assign _ _ _ _ st
  · split
    · exact (closeText st).trans (assign _ _ _ _ _)
    · exact (ensurePage st).trans (assign _ _ _ _ _)

theorem warn (line : Nat) (cause : Cause) (st : State) : SameIndex st (st.warn line cause) :=
  ⟨rfl, rfl, rfl, id⟩

theorem affected (number : Nat) (next : Question) (selection? : Option Selection)
    (capture? : Option Capture) (cause? : Option Cause) (st : State) :
    SameIndex st (st.affected number next selection? capture? cause?) := ⟨rfl, rfl, rfl, id⟩

end SameIndex

theorem pageCount_closeBlock (st : State) : st.closeBlock.pageCount = st.closePage.pageCount := by
  rw [closeBlock]
  generalize st.closePage = closed
  by_cases hvacant : (closed.isImplicit && closed.block.isVacant) = true
  · have hpages : closed.block.pages = [] := by
      simp only [Bool.and_eq_true, Block.isVacant, List.isEmpty_iff] at hvacant
      exact hvacant.2.1.1
    simp [pageCount, hvacant, hpages]
  · simp [pageCount, hvacant]

/-! ## The navigation in order -/

/-- The navigation of a state is in order. -/
structure Navigated (st : State) : Prop where
  /-- The positions are those of finished pages. -/
  position : ∀ entry ∈ st.entries, ∀ n ∈ entry.pages, n < st.pageCount
  /-- A page that is listed is open, and its entry is there. -/
  listed : st.isListed = true → st.page?.isSome = true ∧ st.entries ≠ []
  /-- A first entry without pages is the only one, that of the open page. -/
  front : ∀ entry ∈ st.entries.head?, entry.pages = [] →
    st.entries.length = 1 ∧ st.isListed = true

namespace Navigated

variable {st st' : State}

theorem empty : Navigated {} where
  position := by simp
  listed := by simp
  front := by simp

theorem same (h : Navigated st) (hsame : SameIndex st st') : Navigated st' where
  position := by rw [hsame.entries, hsame.pageCount]; exact h.position
  listed := fun hlisted =>
    (h.listed (hsame.isListed ▸ hlisted)).imp hsame.page (hsame.entries ▸ ·)
  front := by rw [hsame.entries, hsame.isListed]; exact h.front

/-- **A page that is closed** goes to the entry that runs, at its own position. -/
theorem closePage (h : Navigated st) : Navigated st.closePage := by
  have hsection := h.same (.closeSection st)
  cases hpage : st.closeSection.page? with
  | none => exact closePage_of_none hpage ▸ hsection
  | some page =>
      rw [closePage_of_some hpage]
      generalize st.closeSection = settled at hsection
      have hcount : State.pageCount
          { settled.addPage page settled.pageCount with page? := none } = settled.pageCount + 1 := by
        simp [addPage, pageCount, Nat.add_assoc]
      refine ⟨fun entry hentry n hn => ?_, fun hlisted => absurd hlisted Bool.false_ne_true,
        fun entry hentry hpages => ?_⟩
      · rw [hcount]
        rcases mem_changeLast hentry with hold | ⟨last, hlast, rfl⟩
        · exact Nat.lt_succ_of_lt (hsection.position entry hold n hn)
        · rcases List.mem_append.mp hn with hn | hn
          · exact Nat.lt_succ_of_lt (hsection.position last hlast n hn)
          · exact List.mem_singleton.mp hn ▸ Nat.lt_succ_self _
      · -- A sole entry has just got a page, and any other first entry had one.
        simp only [addPage, head?_changeLast] at hentry
        split at hentry
        · obtain ⟨first, -, rfl⟩ := Option.map_eq_some_iff.mp hentry
          simp at hpages
        · rename_i hlength
          exact absurd (hsection.front entry hentry hpages).1 hlength

theorem closeBlock (h : Navigated st) : Navigated st.closeBlock where
  position := by
    rw [pageCount_closeBlock]
    exact h.closePage.position
  listed := h.closePage.listed
  front := h.closePage.front

theorem setBlock (h : Navigated st) (block : Block) (hpages : block.pages = st.block.pages)
    (isImplicit : Bool) : Navigated { st with block, isImplicit } where
  position := by
    have hcount : State.pageCount { st with block, isImplicit } = st.pageCount := by
      simp [pageCount, hpages]
    rw [hcount]
    exact h.position
  listed := h.listed
  front := h.front

/-- **A level** is that of the last entry or begins a new one, which is listed. -/
theorem readLevel (h : Navigated st) (level : Nat) : Navigated (st.readLevel level) := by
  rw [State.readLevel]
  split
  · rename_i hlisted
    have hentries : changeLast (fun entry => { entry with level := level }) st.entries ≠ [] := by
      rw [← List.length_pos_iff, length_changeLast, List.length_pos_iff]
      exact (h.listed hlisted).2
    refine ⟨fun entry hentry n hn => ?_, fun _ => ⟨(h.listed hlisted).1, hentries⟩,
      fun entry hentry hpages => ?_⟩
    · rcases mem_changeLast hentry with hold | ⟨last, hlast, rfl⟩
      · exact h.position entry hold n hn
      · exact h.position last hlast n hn
    · simp only [head?_changeLast, length_changeLast] at hentry ⊢
      split at hentry
      · rename_i hlength
        exact ⟨hlength, hlisted⟩
      · exact h.front entry hentry hpages
  · rename_i hlisted
    refine ⟨fun entry hentry n hn => ?_, fun _ => ⟨rfl, by simp⟩, fun entry hentry hpages => ?_⟩
    · rcases List.mem_append.mp hentry with hold | hnew
      · exact h.position entry hold n hn
      · obtain rfl := List.mem_singleton.mp hnew
        cases hn
    · -- There was no entry before, for an open page without one has none without pages before it.
      cases hold : st.entries with
      | nil => exact ⟨by simp [ensurePage, hold], rfl⟩
      | cons first rest =>
          simp only [ensurePage, hold, List.cons_append, List.head?_cons, Option.mem_some] at hentry
          exact absurd (h.front entry (by simp [hold, hentry]) hpages).2 hlisted

/-- **A line that is classified keeps the navigation in order.** -/
theorem readLine {raw : Text} {line : Line} (h : Navigated st)
    (hline : st.lineOf? raw = some line) (number : Nat) (after : List Text) :
    Navigated (st.readLine number line raw after) := by
  have hquiet : Navigated st.quiet := h.same ⟨rfl, rfl, rfl, id⟩
  obtain ⟨hcapture, -, -, hclassify⟩ := lineOf?_eq_some.mp hline
  cases hkind : line.kind with
  | text => simp only [State.readLine, hkind]; exact h.same (.readText raw st)
  | blank => simp only [State.readLine, hkind]; exact hquiet.same (.readBlank _)
  | page =>
      simp only [State.readLine, hkind]
      exact hquiet.closePage.same ⟨rfl, rfl, rfl, fun _ => rfl⟩
  | block =>
      simp only [State.readLine, hkind]
      exact hquiet.closeBlock.setBlock { name := line.value } rfl false
  | heading =>
      simp only [State.readLine, hkind]
      exact hquiet.same ((SameIndex.closeSection _).trans ⟨rfl, rfl, rfl, fun _ => rfl⟩)
  | question => simp only [State.readLine, hkind]; exact hquiet.same (.readQuestion _ _ _)
  | navigation _ level => simp only [State.readLine, hkind]; exact hquiet.readLevel level
  | computation computed =>
      simp only [State.readLine, hkind]
      exact hquiet.same (.readComputation computed _)
  | showIf => simp only [State.readLine, hkind]; exact hquiet.same (.assign _ _ _ _ _)
  | tooltip => simp only [State.readLine, hkind]; exact hquiet.same (.readTooltip _ _ _)
  | _ =>
      simp only [State.readLine, hkind]
      split
      · exact hquiet
      · rename_i question hquestion
        have haffects : Affects number line question st.quiet
            (st.quiet.readInside number line question) :=
          Affects.readInside hquestion hcapture (isProper_of_classify hclassify)
        obtain ⟨next, selection?, capture?, cause?, -, heffect⟩ := haffects
        change Navigated (st.quiet.readInside number line question)
        rw [heffect]
        exact hquiet.same (.affected _ _ _ _ _ _)

/-- **Every line keeps the navigation in order.** -/
theorem read {number : Nat} {raw : Text} {after : List Text} (h : Navigated st)
    (hread : st.read number raw after = .ok st') : Navigated st' := by
  cases hcapture : st.capture? with
  | some capture =>
      rw [read_of_capture raw hcapture] at hread
      exact Except.ok.inj hread ▸ h.same (.readQuoted capture raw st)
  | none =>
      by_cases hfence : hasStart fence (trim raw) = true
      · rw [read_of_fence hcapture hfence] at hread
        have hturned : SameIndex st { st with isFenced := !st.isFenced } := ⟨rfl, rfl, rfl, id⟩
        exact Except.ok.inj hread ▸ h.same (hturned.trans (.readText raw _))
      · rw [Bool.not_eq_true] at hfence
        cases hfenced : st.isFenced with
        | true =>
            rw [read_of_isFenced hcapture hfence hfenced] at hread
            exact Except.ok.inj hread ▸ h.same (.readText raw st)
        | false =>
            rw [read_of_classify hcapture hfence hfenced] at hread
            obtain ⟨line, hclassify, rfl⟩ := Except.map_eq_ok hread
            have hline := lineOf?_eq_some.mpr ⟨hcapture, hfence, hfenced, hclassify⟩
            exact h.readLine hline number after

theorem readAll (lines : List Text) : Navigated (State.readAll 0 {} lines).1 :=
  readAll_invariant (fun _ _ _ _ _ h => h.read) 0 .empty lines

theorem finish (h : Navigated st) : Navigated st.finish := by
  rw [State.finish]
  split
  · exact h.closeBlock
  · exact (h.same ((SameIndex.warn _ _ st).trans (.endCapture _ _))).closeBlock

end Navigated
end State
end Questionnaire.Source
