import Questionnaire.Proofs.Source.Opaque
import Questionnaire.Proofs.Source.Reworded
import Questionnaire.Proofs.Source.Unquoted
import Questionnaire.Proofs.Text.Visible

/-!
# Fenced text is opaque

The lines between a fence and the next one become lines of one text item
(`readAll_fenced`), and no look ahead hears them (`lookAhead_fenced`). With no
quotes before the fence the reading and every look ahead agree on where it
stands, so other lines in their place change the wording of that text and
nothing else (`compile_fenced`).
-/

namespace Questionnaire.Source

open Text

/-! ## Behind a fence -/

/-- The lines of a text that fenced lines make. -/
def fencedLines (opening : Text) (inside : List Text) (closing : Text) : List Text :=
  (opening :: (inside ++ [closing])).map trimRight

/-- A fence is to be seen. -/
theorem isBlankText_of_fence {raw : Text} (h : hasStart fence (trim raw) = true) :
    isBlankText raw = false := by
  rw [Bool.eq_false_iff]
  intro hblank
  rw [trim_of_isBlankText hblank] at h
  exact absurd h (by decide)

theorem isSolid_fencedLines {opening closing : Text}
    (hopening : hasStart fence (trim opening) = true)
    (hclosing : hasStart fence (trim closing) = true) (inside : List Text) :
    IsSolid (fencedLines opening inside closing) where
  first := ⟨trimRight opening, (inside ++ [closing]).map trimRight, rfl,
    (isBlankText_trimRight opening).trans (isBlankText_of_fence hopening)⟩
  last := ⟨(opening :: inside).map trimRight, trimRight closing, by simp [fencedLines],
    (isBlankText_trimRight closing).trans (isBlankText_of_fence hclosing)⟩

namespace State

variable {st : State}

theorem readText_of_none (st : State) (h : st.question? = none) (raw : Text) :
    st.readText raw = { st with pending := st.pending ++ [trimRight raw] } := by
  have hsame : st.closeQuestion = st := by rw [closeQuestion, h]
  rw [readText, if_neg (by simp [h])]
  simp only [hsame]

/-- **The lines behind a fence go to the pending text**, up to the fence that closes
it. -/
theorem readAll_inside {inside : List Text} {closing : Text}
    (hinside : ∀ line ∈ inside, hasStart fence (trim line) = false)
    (hclosing : hasStart fence (trim closing) = true) (st : State) (hcapture : st.capture? = none)
    (hfenced : st.isFenced = true) (hquestion : st.question? = none) (done : Nat)
    (rest : List Text) : readAll done st (inside ++ closing :: rest)
      = readAll (done + inside.length + 1)
          { st with
            isFenced := false, pending := st.pending ++ (inside ++ [closing]).map trimRight } rest := by
  induction inside generalizing done st with
  | nil =>
      rw [List.nil_append, readAll, read_of_fence hcapture hclosing,
        readText_of_none { st with isFenced := !st.isFenced } hquestion, hfenced]
      rfl
  | cons raw inside ih =>
      rw [List.cons_append, readAll,
        read_of_isFenced hcapture (hinside raw List.mem_cons_self) hfenced,
        readText_of_none st hquestion]
      refine (ih (fun line hline => hinside line (List.mem_cons_of_mem _ hline))
        { st with pending := st.pending ++ [trimRight raw] } hcapture hfenced hquestion
        (done + 1)).trans ?_
      simp [Nat.add_assoc, Nat.add_comm 1]

/-- **Fenced lines become lines of text**, behind the question that they close. -/
theorem readAll_fenced {opening closing : Text} {inside : List Text}
    (hopening : hasStart fence (trim opening) = true)
    (hinside : ∀ line ∈ inside, hasStart fence (trim line) = false)
    (hclosing : hasStart fence (trim closing) = true) (hcapture : st.capture? = none)
    (hfenced : st.isFenced = false) (done : Nat) (rest : List Text) :
    readAll done st (opening :: (inside ++ closing :: rest))
      = readAll (done + inside.length + 2)
          { st.closeQuestion with
            pending := st.closeQuestion.pending ++ fencedLines opening inside closing } rest := by
  have hclose : { st with isFenced := true }.closeQuestion
      = { st.closeQuestion with isFenced := true } := by
    cases hquestion : st.question? with
    | none => simp only [closeQuestion, hquestion]
    | some question => simp only [closeQuestion, hquestion]; rfl
  have hread : st.read (done + 1) opening (inside ++ closing :: rest)
      = .ok { st.closeQuestion with
          isFenced := true, pending := st.closeQuestion.pending ++ [trimRight opening] } := by
    rw [read_of_fence hcapture hopening, hfenced, Bool.not_false]
    simp [readText, hclose]
  rw [readAll, hread]
  refine (readAll_inside hinside hclosing
    { st.closeQuestion with
      isFenced := true, pending := st.closeQuestion.pending ++ [trimRight opening] }
    ((capture?_closeQuestion st).trans hcapture) rfl (question?_closeQuestion st) (done + 1)
    rest).trans ?_
  simp [fencedLines, Nat.add_assoc, Nat.add_comm 1, hfenced]

end State

/-! ## Up to a fence -/

/-- **A look ahead hears nothing behind a fence.** -/
theorem lookAhead_fenced {opening closing : Text} {inside : List Text}
    (hopening : hasStart fence (trim opening) = true)
    (hinside : ∀ line ∈ inside, hasStart fence (trim line) = false)
    (hclosing : hasStart fence (trim closing) = true) (signals : Signals) (rest : List Text) :
    lookAhead .nothing signals (opening :: (inside ++ closing :: rest))
      = lookAhead .nothing signals rest := by
  have hskip : lookAhead .fenced signals (inside ++ closing :: rest)
      = lookAhead .nothing signals rest := by
    induction inside with
    | nil => simp [lookAhead, hclosing]
    | cons raw inside ih =>
        simp only [List.cons_append, lookAhead, hinside raw List.mem_cons_self]
        exact ih fun line h => hinside line (List.mem_cons_of_mem _ h)
  simpa only [lookAhead, hopening, if_true] using hskip

/-- A fenced region of a source: the lines between one that opens a fence and the
next one that begins like it. No line before it holds quotes. -/
structure IsFenced (lines before : List Text) (opening : Text) (inside : List Text)
    (closing : Text) (after : List Text) : Prop where
  /-- The lines of the source. -/
  lines : lines = before ++ opening :: (inside ++ closing :: after)
  /-- No line before holds quotes. -/
  unquoted : ∀ line ∈ before, ¬ quotes <:+: line
  /-- Every fence before is closed. -/
  outside : before.foldl turnsFence false = false
  /-- The line that opens the fence. -/
  opens : hasStart fence (trim opening) = true
  /-- No line inside closes it. -/
  keepsOpen : ∀ line ∈ inside, hasStart fence (trim line) = false
  /-- The last line does. -/
  closes : hasStart fence (trim closing) = true

namespace IsFenced

variable {lines lines' before inside inside' after : List Text} {opening closing : Text}

/-- Whatever stands behind the fence, the look ahead of a question before it calls for
the same kind. -/
theorem kindAhead_eq (h : IsFenced lines before opening inside closing after)
    (h' : IsFenced lines' before opening inside' closing after) {window : List Text}
    (hwindow : ∀ line ∈ window, ¬ quotes <:+: line)
    (hclosed : window.foldl turnsFence false = false) :
    kindAhead (window ++ opening :: (inside ++ closing :: after))
      = kindAhead (window ++ opening :: (inside' ++ closing :: after)) := by
  rw [kindAhead, kindAhead]
  rcases lookMode_unquoted hwindow false with hnone | hmode
  · exact congrArg Signals.kind
      ((lookAhead_append_of_none hnone _ _).trans (lookAhead_append_of_none hnone _ _).symm)
  · rw [hclosed] at hmode
    have hmode : lookMode .nothing window = some .nothing := hmode
    rw [lookAhead_append hmode, lookAhead_append hmode,
      lookAhead_fenced h.opens h.keepsOpen h.closes, lookAhead_fenced h.opens h'.keepsOpen h.closes]

/-- **Up to the fence both runs are the same**: they end at one line that cannot be
read, or they come to the fence in one state, outside of quotes and of fences. -/
theorem readAll_before (h : IsFenced lines before opening inside closing after)
    (h' : IsFenced lines' before opening inside' closing after) {window : List Text}
    (hwindow : ∀ line ∈ window, ¬ quotes <:+: line) {done : Nat} {st : State}
    (hcapture : st.capture? = none) (hclosed : window.foldl turnsFence st.isFenced = false) :
    (∃ stopped, State.readAll done st (window ++ opening :: (inside ++ closing :: after)) = stopped ∧
      State.readAll done st (window ++ opening :: (inside' ++ closing :: after)) = stopped ∧
      stopped.2 ≠ none) ∨ ∃ next : State,
        State.readAll done st (window ++ opening :: (inside ++ closing :: after))
          = State.readAll (done + window.length) next
            (opening :: (inside ++ closing :: after)) ∧
        State.readAll done st (window ++ opening :: (inside' ++ closing :: after))
          = State.readAll (done + window.length) next
            (opening :: (inside' ++ closing :: after)) ∧
        next.capture? = none ∧ next.isFenced = false := by
  induction window generalizing done st with
  | nil => exact .inr ⟨st, rfl, rfl, hcapture, hclosed⟩
  | cons raw window ih =>
      have hrest : ∀ line ∈ window, ¬ quotes <:+: line := fun line hline =>
        hwindow line (List.mem_cons_of_mem _ hline)
      -- A question that begins here does so outside of fences.
      have hsame : st.read (done + 1) raw (window ++ opening :: (inside ++ closing :: after))
          = st.read (done + 1) raw (window ++ opening :: (inside' ++ closing :: after)) := by
        refine State.read_behind fun hmarker => ?_
        obtain ⟨line, hline, -⟩ := Option.map_eq_some_iff.mp hmarker
        obtain ⟨-, hfence, hfenced, -⟩ := State.lineOf?_eq_some.mp hline
        rw [List.foldl_cons, turnsFence, hfence, hfenced] at hclosed
        exact h.kindAhead_eq h' hrest hclosed
      rw [List.cons_append, List.cons_append, State.readAll, State.readAll, ← hsame]
      cases hread : st.read (done + 1) raw (window ++ opening :: (inside ++ closing :: after)) with
      | error fault => exact .inl ⟨_, rfl, rfl, Option.some_ne_none _⟩
      | ok next =>
          have hnext := @ih hrest (done + 1) next
            (State.capture?_read hcapture (hwindow raw List.mem_cons_self) hread)
            (by rw [State.isFenced_read hcapture hread]; exact hclosed)
          rwa [Nat.add_assoc, Nat.add_comm 1] at hnext

end IsFenced

/-! ## Two sources -/

/-- **Fenced text is opaque**: other lines in its place, as many and none of them a
fence, change the wording of the text item that they stand in and nothing else. -/
theorem compile_fenced {source source' name : Text} {isChecked : Bool}
    {before inside inside' after : List Text} {opening closing : Text}
    (h : IsFenced (sourceLines source) before opening inside closing after)
    (h' : IsFenced (sourceLines source') before opening inside' closing after)
    (hlength : inside.length = inside'.length) :
    (compile source name isChecked).Agrees
      (Survey.Reworded (fencedLines opening inside closing) (fencedLines opening inside' closing))
      (compile source' name isChecked) := by
  have hstart : (before.foldl turnsFence (({} : State).isFenced)) = false := h.outside
  have hlines : State.readAll 0 {} (sourceLines source)
      = State.readAll 0 {} (before ++ opening :: (inside ++ closing :: after)) := by rw [h.lines]
  have hlines' : State.readAll 0 {} (sourceLines source')
      = State.readAll 0 {} (before ++ opening :: (inside' ++ closing :: after)) := by rw [h'.lines]
  refine Compilation.Agrees.check (fun _ _ _ hreworded => hreworded.problems_eq) ?_
  rcases h.readAll_before h' h.unquoted rfl hstart with
    ⟨stopped, hrun, hrun', hfailed⟩ | ⟨next, hrun, hrun', hcapture, hfenced⟩
  · rw [← hlines] at hrun
    rw [← hlines'] at hrun'
    refine Compilation.Agrees.of_runs (by rw [hrun, hrun']) (by rw [hrun, hrun']) fun hnone => ?_
    exact absurd (hrun ▸ hnone) hfailed
  · -- Behind the fence the states differ in the text that is pending.
    have hsolid := isSolid_fencedLines h.opens h.closes inside
    have hsolid' := isSolid_fencedLines h.opens h.closes inside'
    rw [← hlines, State.readAll_fenced h.opens h.keepsOpen h.closes hcapture hfenced] at hrun
    rw [← hlines', State.readAll_fenced h.opens h'.keepsOpen h.closes hcapture hfenced,
      ← hlength] at hrun'
    have hpending : State.Reworded (fencedLines opening inside closing)
        (fencedLines opening inside' closing)
        { next.closeQuestion with
          pending := next.closeQuestion.pending ++ fencedLines opening inside closing ++ [] }
        { next.closeQuestion with
          pending := next.closeQuestion.pending ++ fencedLines opening inside' closing ++ [] } :=
      .pending next.closeQuestion next.closeQuestion.pending []
    simp only [List.append_nil] at hpending
    obtain ⟨hfailure, hstates⟩ := hpending.readAll hsolid hsolid'
      (0 + before.length + inside.length + 2) after
    rw [← hrun, ← hrun'] at hfailure hstates
    exact .of_runs hfailure hstates.warnings_eq fun _ => hstates.finish hsolid hsolid' name

/-- A question with a fence behind it that holds a word for a kind of input. -/
def fenceSource : Text :=
  "Q: Pets\n\u0060\u0060\u0060\nBREAKDOWN\n\u0060\u0060\u0060\n- Dog".toList

/-- The same with the marker of a question in the fence. -/
def fenceSource' : Text :=
  "Q: Pets\n\u0060\u0060\u0060\nQ: Cats\n\u0060\u0060\u0060\n- Dog".toList

theorem isFenced_fenceSource : IsFenced (sourceLines fenceSource) ["Q: Pets".toList] fence
    ["BREAKDOWN".toList] fence ["- Dog".toList] where
  lines := by decide +kernel
  unquoted := by decide +kernel
  outside := by decide +kernel
  opens := by decide +kernel
  keepsOpen := by decide +kernel
  closes := by decide +kernel

theorem isFenced_fenceSource' : IsFenced (sourceLines fenceSource') ["Q: Pets".toList] fence
    ["Q: Cats".toList] fence ["- Dog".toList] where
  lines := by decide +kernel
  unquoted := by decide +kernel
  outside := by decide +kernel
  opens := by decide +kernel
  keepsOpen := by decide +kernel
  closes := by decide +kernel

theorem compile_fenced_pets : (compile fenceSource [] true).Agrees
    (Survey.Reworded (fencedLines fence ["BREAKDOWN".toList] fence)
      (fencedLines fence ["Q: Cats".toList] fence)) (compile fenceSource' [] true) :=
  compile_fenced isFenced_fenceSource isFenced_fenceSource' rfl

end Questionnaire.Source
