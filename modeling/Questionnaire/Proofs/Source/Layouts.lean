import Questionnaire.Proofs.Source.Attributes
import Questionnaire.Proofs.Source.Numbering

/-!
# Layouts of a quoted value

A value of one line may stand between its quotes on the line of the keyword, on a line
of its own, or beside either of the quotes (`Layout`). All of these assign the same
value to the same attribute (`readAll_layout`), and no look ahead before them tells them
apart (`kindAhead_layout`), so they give the same survey (`compile_layouts`).
-/

namespace Questionnaire.Source

open Text

/-! ## Values of one line -/

/-- Spaces and tabs. -/
def Indent : Type := { t : Text // t.all isIndent = true }

theorem isBlank_of_isIndent {c : Char} (h : isIndent c = true) : isBlank c = true := by
  rw [isIndent, Bool.or_eq_true, decide_eq_true_eq, decide_eq_true_eq] at h
  rcases h with rfl | rfl <;> decide

theorem Indent.isBlankText (indent : Indent) : isBlankText indent.1 = true :=
  List.all_eq_true.mpr fun c hc => isBlank_of_isIndent (List.all_eq_true.mp indent.2 c hc)

/-- Whatever stands before quotes, they are not trimmed away. -/
theorem trimRight_quotes (before : Text) : trimRight (before ++ quotes) = before ++ quotes := by
  refine trimRight_eq_self_of_last fun c hc => ?_
  rw [getLast?_append_of_ne_nil before (by decide)] at hc
  obtain rfl : '"' = c := Option.some.inj hc
  decide

theorem hasEnd_trim_quotes (before : Text) : hasEnd quotes (trim (before ++ quotes)) = true := by
  cases hblank : isBlankText before with
  | true =>
      rw [trim, trimLeft_append_of_blank hblank]
      decide
  | false =>
      rw [trim, trimLeft_append_of_not_blank hblank, trimRight_quotes]
      exact hasEnd_iff.mpr (List.suffix_append _ _)

/-- A text on one line, without blanks around it and without quotes. -/
structure IsOneLine (t : Text) : Prop where
  /-- There is something in it. -/
  ne_nil : t ≠ []
  /-- There are no blanks around it. -/
  trimmed : trim t = t
  /-- It is on one line. -/
  feeds : '\n' ∉ t
  /-- It has no quotes in it. -/
  unquoted : ¬ quotes <:+: t

namespace IsOneLine

variable {t : Text}

theorem head (h : IsOneLine t) {c : Char} (hc : t.head? = some c) : isBlank c = false :=
  trim_head (by rw [h.trimmed]; exact hc)

theorem last (h : IsOneLine t) {c : Char} (hc : t.getLast? = some c) : isBlank c = false :=
  trim_last (by rw [h.trimmed]; exact hc)

theorem isTail (h : IsOneLine t) : IsTail t := ⟨h.feeds, fun _ => h.last⟩

theorem isTail_quotes (h : IsOneLine t) : IsTail (t ++ quotes) where
  feeds := by
    rw [List.mem_append]
    exact not_or_intro h.feeds (by decide)
  last := fun c hc => by
    rw [getLast?_append_of_ne_nil t (by decide)] at hc
    obtain rfl : '"' = c := Option.some.inj hc
    decide

theorem isBlankText (h : IsOneLine t) : isBlankText t = false := by
  cases hblank : Text.isBlankText t with
  | false => rfl
  | true => exact absurd (h.trimmed.symm.trans (trim_of_isBlankText hblank)) h.ne_nil

/-- Where the line of the value ends no quotes are closed. -/
theorem hasEnd_quotes (h : IsOneLine t) : hasEnd quotes t = false := by
  rw [Bool.eq_false_iff]
  exact fun hend => h.unquoted (hasEnd_iff.mp hend).isInfix

theorem hasEnd_indent (h : IsOneLine t) (indent : Indent) :
    ∀ line ∈ [indent.1 ++ t], hasEnd quotes (trim line) = false := by
  intro line hline
  rw [List.mem_singleton.mp hline, trim, trimLeft_append_of_blank indent.isBlankText, ← trim,
    h.trimmed]
  exact h.hasEnd_quotes

/-- A line that is indented is the same without its indentation. -/
theorem dedent_indent (h : IsOneLine t) (indent : Indent) : dedent [indent.1 ++ t] = [t] := by
  obtain ⟨c, rest, rfl⟩ := List.exists_cons_of_ne_nil h.ne_nil
  have hc : isIndent c = false := by
    cases hindent : isIndent c with
    | false => rfl
    | true =>
        exact absurd ((h.head rfl).symm.trans (isBlank_of_isIndent hindent)) Bool.false_ne_true
  have hall : (indent.1 ++ c :: rest).all isIndent = false := by
    simp [hc]
  have hshared : sharedIndent [indent.1 ++ c :: rest] = indent.1 := by
    have htake : (indent.1 ++ c :: rest).takeWhile isIndent = indent.1 := by
      rw [List.takeWhile_append_of_pos (List.all_eq_true.mp indent.2)]
      simp [hc]
    simp only [sharedIndent, hall, Bool.not_false, List.filter_cons_of_pos, List.filter_nil,
      List.map_cons, List.map_nil, htake, List.foldl_nil]
  simp only [dedent, List.map_cons, List.map_nil, hall, hshared, after?_append]
  rfl

theorem trimRight_eq (h : IsOneLine t) : trimRight t = t :=
  trimRight_eq_self_of_last fun _ => h.last

theorem trimLineFeeds_eq (h : IsOneLine t) : trimLineFeeds t = t := by
  have hdrop : ∀ s : Text, '\n' ∉ s → s.dropWhile (· = '\n') = s := by
    intro s hs
    cases s with
    | nil => rfl
    | cons c rest =>
        have hc : c ≠ '\n' := fun heq => hs (heq ▸ List.mem_cons_self)
        simp [hc]
  rw [trimLineFeeds, hdrop t h.feeds, hdrop _ (by simpa using h.feeds), List.reverse_reverse]

/-- **The value of one line**, indented or not. -/
theorem value_eq (h : IsOneLine t) {capture : Capture} (indent : Indent)
    (hlines : capture.lines = [indent.1 ++ t]) : capture.value = t := by
  have hjoin : ∀ separator, join separator [t] = t := fun _ => rfl
  rw [Capture.value, hlines]
  split
  · simp [folded, h.dedent_indent, h.trimmed, h.ne_nil, hjoin, h.trimRight_eq]
  · rw [unfolded, h.dedent_indent, hjoin, h.trimLineFeeds_eq, h.trimRight_eq]

end IsOneLine

/-! ## Layouts -/

/-- How a value of one line may stand between its quotes. -/
inductive Layout where
  /-- On the line of the keyword. -/
  | inline
  /-- On a line of its own. -/
  | apart (indent closing : Indent)
  /-- Behind the quotes that open it. -/
  | leading (closing : Indent)
  /-- Before the quotes that close it. -/
  | trailing (indent : Indent)

namespace Layout

/-- What stands behind the first quotes on their line. -/
def behind (t : Text) : Layout → Text
  | .inline => t ++ quotes
  | .apart _ _ => []
  | .leading _ => t
  | .trailing _ => []

/-- The lines behind that of the keyword. -/
def further (t : Text) : Layout → List Text
  | .inline => []
  | .apart indent closing => [indent.1 ++ t, closing.1 ++ quotes]
  | .leading closing => [closing.1 ++ quotes]
  | .trailing indent => [indent.1 ++ (t ++ quotes)]

/-- The lines of the value. -/
def lines (lead : Lead) (t : Text) (layout : Layout) : List Text :=
  lead.line (layout.behind t) :: layout.further t

variable {lead : Lead} {t : Text}

theorem isTail_behind (ht : IsOneLine t) (layout : Layout) : IsTail (layout.behind t) := by
  cases layout with
  | inline => exact ht.isTail_quotes
  | leading => exact ht.isTail
  | apart | trailing => exact isTail_nil

end Layout

namespace State

variable {t : Text} {capture : Capture}

/-- Quotes that close on their line. -/
theorem assign_closed (ht : IsOneLine t) (holder : Holder) (aspect : Aspect) (number : Nat)
    (st : State) : st.assign holder aspect number (quotes ++ (t ++ quotes))
      = st.write holder aspect t := by
  have hend : hasEnd quotes (t ++ quotes) = true := hasEnd_iff.mpr (List.suffix_append _ _)
  have hlength : (t ++ quotes).length - quotes.length = t.length := by
    rw [List.length_append, Nat.add_sub_cancel]
  rw [assign, after?_append]
  simp only [hend, if_true, hlength, List.take_left', ht.trimmed]

/-- Quotes that stay open on their line. -/
theorem assign_open {behind : Text} (h : hasEnd quotes behind = false) (holder : Holder)
    (aspect : Aspect) (number : Nat) (st : State) :
    st.assign holder aspect number (quotes ++ behind) = { st with
      capture? := some
        ⟨holder, aspect, number, if isBlankText behind then [] else [trim behind]⟩ } := by
  rw [assign, after?_append]
  simp only [h]
  rfl

/-- The lines of a value whose last one is closed by quotes. -/
theorem lines_closedBy (capture : Capture) (inside : List Text) (before : Text) :
    (capture.closedBy inside (before ++ quotes)).lines
      = capture.lines ++ inside ++ if isBlankText before then [] else [before] := by
  have hbefore : (trimRight (before ++ quotes)).take
      ((trimRight (before ++ quotes)).length - quotes.length) = before := by
    rw [trimRight_quotes, List.length_append, Nat.add_sub_cancel, List.take_left]
  simp only [Capture.closedBy, hbefore]

/-- Quotes that are open before the lines of a value and the one that closes them. -/
theorem readAll_opened {ready : State} (hready : ready.capture? = none) {inside : List Text}
    (hinside : ∀ line ∈ inside, hasEnd quotes (trim line) = false) {before t : Text}
    (hvalue : (capture.closedBy inside (before ++ quotes)).value = t) (done : Nat)
    (rest : List Text) :
    readAll done { ready with capture? := some capture } (inside ++ (before ++ quotes) :: rest)
      = readAll (done + inside.length + 1) (ready.write capture.holder capture.aspect t) rest := by
  rw [readAll_quoted hinside (hasEnd_trim_quotes before) rfl, endCapture_of_capture,
    endCapture_of_none hready, hvalue]
  rfl

/-- **The lines of the value behind that of the keyword** assign the value, in every layout. -/
theorem readAll_further (ht : IsOneLine t) (layout : Layout) {ready : State}
    (hready : ready.capture? = none) (holder : Holder) (aspect : Aspect) (number done : Nat)
    (rest : List Text) :
    readAll done (ready.assign holder aspect number (quotes ++ layout.behind t))
        (layout.further t ++ rest)
      = readAll (done + (layout.further t).length) (ready.write holder aspect t) rest := by
  cases layout with
  | inline =>
      rw [Layout.behind, assign_closed ht]
      rfl
  | apart indent closing =>
      rw [Layout.behind, assign_open rfl]
      refine readAll_opened hready (ht.hasEnd_indent indent) (ht.value_eq indent ?_) done rest
      rw [lines_closedBy, closing.isBlankText]
      rfl
  | leading closing =>
      rw [Layout.behind, assign_open ht.hasEnd_quotes]
      refine readAll_opened hready (fun line hline => absurd hline List.not_mem_nil)
        (ht.value_eq ⟨[], rfl⟩ ?_) done rest
      rw [lines_closedBy, closing.isBlankText, ht.isBlankText, ht.trimmed]
      rfl
  | trailing indent =>
      have hblank : isBlankText (indent.1 ++ t) = false := by
        rw [isBlankText_append, ht.isBlankText, Bool.and_false]
      rw [Layout.behind, assign_open rfl, Layout.further, ← List.append_assoc]
      refine readAll_opened hready (fun line hline => absurd hline List.not_mem_nil)
        (ht.value_eq indent ?_) done rest
      rw [lines_closedBy, hblank]
      rfl

end State

/-! ## Looking ahead -/

/-- **A look ahead at the value** hears nothing of it, or one option behind a dash. -/
theorem lookAhead_lines (lead : Lead) {t : Text} (ht : IsOneLine t) (layout : Layout)
    (signals : Signals) (rest : List Text) :
    lookAhead .nothing signals (layout.lines lead t ++ rest) = lookAhead .nothing signals rest ∨
      lead.dash?.isSome = true ∧ lookAhead .nothing signals (layout.lines lead t ++ rest)
        = (lookAhead .nothing signals rest).offer := by
  have hline := lead.lookAhead_line (layout.isTail_behind ht) signals (layout.further t ++ rest)
  have hopen : ∀ (inside : List Text) (before : Text), occurrences quotes (layout.behind t) = 0 →
      layout.further t = inside ++ [before ++ quotes] →
      (∀ line ∈ inside, hasEnd quotes (trim line) = false) →
      lookAhead .nothing signals (layout.lines lead t ++ rest)
        = lookAhead .nothing signals rest := by
    intro inside before hcount hfurther hinside
    rw [if_pos hcount, hfurther, List.append_assoc, List.singleton_append,
      lookAhead_quoted hinside (hasEnd_trim_quotes before)] at hline
    rwa [Layout.lines, List.cons_append, hfurther, List.append_assoc]
  have hnone : occurrences quotes [] = 0 := by decide
  cases layout with
  | inline =>
      have hcount : occurrences quotes (t ++ quotes) ≠ 0 := occurrences_ne_zero t (by decide)
      rw [Layout.behind, if_neg hcount, Lead.heard] at hline
      cases hdash : lead.dash?.isSome with
      | false =>
          rw [hdash] at hline
          exact .inl hline
      | true =>
          rw [hdash] at hline
          exact .inr ⟨rfl, hline.trans (Signals.lookAhead_offer _ _ _)⟩
  | apart indent closing =>
      exact .inl (hopen [indent.1 ++ t] closing.1 hnone rfl (ht.hasEnd_indent indent))
  | leading closing =>
      have hcount : occurrences quotes t = 0 := occurrences_of_not_infix ht.unquoted
      exact .inl (hopen [] closing.1 hcount rfl fun _ hmem => absurd hmem List.not_mem_nil)
  | trailing indent =>
      refine .inl (hopen [] (indent.1 ++ t) hnone ?_ fun _ hmem => absurd hmem List.not_mem_nil)
      rw [Layout.further, List.append_assoc, List.nil_append]

/-- **No look ahead tells two layouts apart**: behind a dash one option more is heard at most,
and one has been heard before, or the question is a breakdown. -/
theorem kindAhead_layout {lead : Lead} {t : Text} (ht : IsOneLine t) {window rest : List Text}
    (hmode : lookMode .nothing window = some .nothing) {layout : Layout}
    (hoffers : lead.dash?.isSome = true → (lookAhead .nothing {} window).offers = true ∨
      kindAhead (window ++ (layout.lines lead t ++ rest)) = .breakdown) (layout' : Layout) :
    kindAhead (window ++ (layout.lines lead t ++ rest))
      = kindAhead (window ++ (layout'.lines lead t ++ rest)) := by
  rw [kindAhead, kindAhead, lookAhead_append hmode, lookAhead_append hmode]
  rw [kindAhead, lookAhead_append hmode] at hoffers
  generalize lookAhead .nothing {} window = heard at hoffers ⊢
  have hoffer : lead.dash?.isSome = true →
      (lookAhead .nothing heard rest).offer.kind = (lookAhead .nothing heard rest).kind := by
    intro hdash
    refine Signals.kind_offer ?_
    rcases hoffers hdash with hheard | hbreakdown
    · exact .inl (Signals.offers_lookAhead hheard _ _)
    · rcases lookAhead_lines lead ht layout heard rest with hsame | ⟨-, hsame⟩
      · exact .inr (.inl (hsame ▸ hbreakdown))
      · exact .inr (.inr (hsame ▸ hbreakdown))
  have hkind : ∀ layout : Layout, (lookAhead .nothing heard (layout.lines lead t ++ rest)).kind
      = (lookAhead .nothing heard rest).kind := by
    intro layout
    rcases lookAhead_lines lead ht layout heard rest with hsame | ⟨hdash, hsame⟩
    · rw [hsame]
    · rw [hsame, hoffer hdash]
  rw [hkind, hkind]

/-! ## Two sources -/

/-- A value of one line that stands in a source in one of the layouts, no quotes before it. -/
structure IsLaidOut (lines : List Text) (earlier : List Step) (opening : Step) (lead : Lead)
    (layout : Layout) (t : Text) (rest : List Text) : Prop where
  /-- The line of the keyword is reached. -/
  reached : ∃ later, steps 0 {} lines = earlier ++ opening :: later
  /-- The line is recognised as what it is. -/
  recognised : (opening.before.lineOf? opening.raw).map Line.kind = some lead.kind
  /-- The lines of the value, and those behind them. -/
  behind : opening.raw :: opening.behind = layout.lines lead t ++ rest
  /-- No line before holds quotes. -/
  unquoted : ∀ step ∈ earlier, ¬ quotes <:+: step.raw

namespace IsLaidOut

variable {lines : List Text} {earlier : List Step} {opening : Step} {lead : Lead} {layout : Layout}
  {t : Text} {rest : List Text}

/-- In every layout the run comes to the value in the same state. -/
theorem readAll_earlier (h : IsLaidOut lines earlier opening lead layout t rest) (ht : IsOneLine t)
    (layout' : Layout) :
    State.readAll 0 {} (earlier.map Step.raw ++ (layout'.lines lead t ++ rest))
      = State.readAll earlier.length opening.before (layout'.lines lead t ++ rest) := by
  obtain ⟨later, hsteps⟩ := h.reached
  obtain ⟨line, hline, hkind⟩ := Option.map_eq_some_iff.mp h.recognised
  obtain ⟨-, hfollows⟩ := follows_of_steps hsteps h.unquoted
  have hfenced := (State.lineOf?_eq_some.mp hline).2.2.1
  rw [readAll_before hsteps, Nat.zero_add]
  · intro other hother window hwindow
    have hread := read_of_mem_steps (hsteps ▸ List.mem_append_left _ hother)
    rw [← hread]
    refine State.read_behind fun hmarker => ?_
    obtain ⟨window', hwindow', hover | hfollow⟩ := hfollows other hother hmarker
    all_goals
      obtain rfl := List.append_cancel_right (hwindow.symm.trans hwindow')
      rw [hwindow, h.behind]
    · rw [kindAhead, kindAhead, lookAhead_append_of_none hover, lookAhead_append_of_none hover]
    · have hmode := hfollow.mode
      rw [hfenced] at hmode
      refine (kindAhead_layout ht hmode (fun hdash => ?_) layout').symm
      rw [← h.behind, ← hwindow]
      refine hfollow.offers ?_
      have hmodifier : line.kind.isModifier = true := by
        rw [hkind, Lead.kind, hdash]
        rfl
      obtain ⟨selection, hselection⟩ := State.selection?_of_isModifier hline hmodifier
      rw [hselection]
      rfl

/-- **In every layout the value is assigned**, and the run goes on behind it in the same state. -/
theorem readAll_layout (h : IsLaidOut lines earlier opening lead layout t rest) (ht : IsOneLine t) :
    ∃ next : State, next.attribute? (lead.holder opening.before) lead.aspect = some t ∧
      ∀ layout' : Layout,
        State.readAll 0 {} (earlier.map Step.raw ++ (layout'.lines lead t ++ rest))
          = State.readAll (earlier.length + (layout'.lines lead t).length) next rest := by
  obtain ⟨later, hsteps⟩ := h.reached
  obtain ⟨line, hline, hkind⟩ := Option.map_eq_some_iff.mp h.recognised
  have hstanding := (steps_invariant (P := fun _ st _ => st.content.Standing)
    (fun _ _ hstanding hread => hstanding.read hread) [] Content.standing_empty hsteps).1
  obtain ⟨ready, hready, hattribute, hassigns⟩ := lead.exists_assigns hstanding hline hkind
  refine ⟨ready.write (lead.holder opening.before) lead.aspect t, hattribute t, fun layout' => ?_⟩
  -- The line of the keyword is recognised in every layout.
  have hbehind := layout'.isTail_behind ht
  obtain ⟨hcapture, -, hfenced, hclassify⟩ := State.lineOf?_eq_some.mp hline
  have hstands := stands_of_classify hclassify
  have hfound : opening.before.lineOf? (lead.line (layout'.behind t))
      = some ⟨lead.kind, quotes ++ layout'.behind t⟩ := by
    refine State.lineOf?_eq_some.mpr ⟨hcapture, ?_, hfenced, lead.classify_line
      (fun hmodifier => hstands.modifier (hkind ▸ hmodifier))
      (fun hinside => hstands.inside (hkind ▸ hinside)) hbehind⟩
    rw [lead.trim_line hbehind]
    exact lead.hasStart_mark (by decide) _ _
  rw [h.readAll_earlier ht layout', Layout.lines, List.cons_append, State.readAll,
    State.read_of_lineOf? hfound]
  simp only [hassigns]
  rw [State.readAll_further ht layout' hready, List.length_cons, Nat.add_assoc, Nat.add_comm 1]

end IsLaidOut

/-- A hint of an option on the line of its keyword. -/
def barksSource : Text :=
  "Q: Pets\nCHECKBOX\n- Dog\n  - HINT: \"\"\"Barks\"\"\"\n- Cat".toList

/-- The same hint on a line of its own. -/
def barksSource' : Text :=
  "Q: Pets\nCHECKBOX\n- Dog\n  - HINT: \"\"\"\n    Barks\n  \"\"\"\n- Cat".toList

/-- What both lines of the hint begin with. -/
def barksLead : Lead where
  indent := ⟨"  ".toList, by decide⟩
  dash? := some ⟨[' '], by decide⟩
  aspect := .hint
  gap := ⟨[' '], by decide⟩

/-- The steps over `barksSource`. -/
def barksSteps : List Step := steps 0 {} (sourceLines barksSource)

/-- The step over the hint. -/
def barksStep : Step := barksSteps.get ⟨3, by decide +kernel⟩

theorem isLaidOut_barks : IsLaidOut (sourceLines barksSource) (barksSteps.take 3) barksStep
    barksLead .inline "Barks".toList ["- Cat".toList] where
  reached := ⟨_, split_steps barksSteps ⟨3, by decide +kernel⟩⟩
  recognised := by decide +kernel
  behind := by decide +kernel
  unquoted := by decide +kernel

theorem isOneLine_barks : IsOneLine "Barks".toList where
  ne_nil := by decide
  trimmed := by decide
  feeds := by decide
  unquoted := by decide

/-- The layout of `barksSource'`. -/
def barksLayout : Layout := .apart ⟨"    ".toList, by decide⟩ ⟨"  ".toList, by decide⟩

end Questionnaire.Source
