import Questionnaire.Proofs.Source.Independence
import Questionnaire.Proofs.Source.Malformed
import Questionnaire.Proofs.Source.Opaque
import Questionnaire.Proofs.Source.Signals
import Questionnaire.Proofs.Source.Standing
import Questionnaire.Proofs.Source.Unquoted

/-!
# What is heard of the lines read

Over lines without quotes the look ahead of the open question goes in step with the
reading (`Follows.read`), and all others are over. So if a row of the question is
selected, a row or an option has been heard of it, or the question is a breakdown
(`follows_of_steps`), and one option more would make it no other question
(`Signals.kind_offer`).
-/

namespace Questionnaire.Source

open Text

/-! ## One option more -/

namespace Signals

/-- The signals with an option among them. -/
def offer (signals : Signals) : Signals := { signals with options := true }

/-- Whether a row or an option has been heard. -/
def offers (signals : Signals) : Bool := signals.rows || signals.options

variable {signals : Signals}

theorem add_offer (signals : Signals) (t : Text) : signals.offer.add t = (signals.add t).offer := by
  rw [add, add]
  repeat' split
  all_goals rfl

/-- An option that is heard first is heard all the same at the end. -/
theorem lookAhead_offer (mode : Skipping) (signals : Signals) (lines : List Text) :
    lookAhead mode signals.offer lines = (lookAhead mode signals lines).offer := by
  induction lines generalizing mode signals with
  | nil => rfl
  | cons raw rest ih =>
      have hhear : signals.offer.hear mode raw = (signals.hear mode raw).offer := by
        rw [hear, hear, add_offer]
        split <;> rfl
      rw [lookAhead_cons, lookAhead_cons, hhear]
      cases lookStep mode raw with
      | none => rfl
      | some next => exact ih next _

theorem kind_eq_breakdown :
    signals.kind = .breakdown ↔ signals.words.contains .breakdown = true := by
  rw [kind]
  repeat' split
  all_goals simp_all

/-- **One option more** makes no difference where one has been heard, or a row, or where the
question is a breakdown. -/
theorem kind_offer (h : signals.offers = true ∨ signals.kind = .breakdown ∨
    signals.offer.kind = .breakdown) : signals.offer.kind = signals.kind := by
  rw [kind_eq_breakdown, kind_eq_breakdown] at h
  rcases h with hoffers | hword
  · rw [offers, Bool.or_eq_true] at hoffers
    rcases hoffers with hrows | hoptions
    · simp [kind, offer, hrows]
    · simp [kind, offer, hoptions]
  · have hbreakdown : signals.words.contains .breakdown = true := hword.elim id id
    rw [kind_eq_breakdown.mpr hbreakdown, kind_eq_breakdown]
    exact hbreakdown

theorem offers_add (h : signals.offers = true) (t : Text) : (signals.add t).offers = true := by
  rw [offers, Bool.or_eq_true] at h
  rw [add]
  repeat' split
  all_goals simp [offers, h]

/-- A line behind a dash, or a range, offers something to choose. -/
theorem offers_add_of_start {t : Text}
    (h : hasStart ['-'] t = true ∨ hasStart "RANGE:".toList t = true) (signals : Signals) :
    (signals.add t).offers = true := by
  have hnone : InputWord.ofText? t = none := by
    cases hfound : InputWord.ofText? t with
    | none => rfl
    | some word =>
        have hspelling : word.spelling = t := by simpa using List.find?_some hfound
        rw [← hspelling] at h
        cases word <;> exact absurd h (by decide)
  have hstart : (hasStart ['-'] t || hasStart "RANGE:".toList t) = true := by
    rwa [Bool.or_eq_true]
  rw [add, hnone]
  simp only [hstart, if_true]
  split <;> simp [offers]

theorem offers_hear (h : signals.offers = true) (mode : Skipping) (raw : Text) :
    (signals.hear mode raw).offers = true := by
  rw [hear]
  split
  · exact offers_add h _
  · exact h

theorem offers_lookAhead (h : signals.offers = true) (mode : Skipping) (lines : List Text) :
    (lookAhead mode signals lines).offers = true := by
  induction lines generalizing mode signals with
  | nil => exact h
  | cons raw rest ih =>
      rw [lookAhead_cons]
      split
      · exact h
      · exact ih (offers_hear h mode raw) _

end Signals

/-! ## Lines that make rows -/

/-- A row of a matrix stands behind a dash. -/
theorem hasStart_of_isMatrixRow {t : Text} (h : isMatrixRow t = true) :
    hasStart ['-'] t = true := by
  rw [isMatrixRow] at h
  rw [hasStart]
  split at h
  · cases h
  · rename_i hafter
    rw [hafter, Option.isSome_some]

/-- A range begins with its keyword. -/
theorem hasStart_of_range {context : Context} {raw : Text} {line : Line}
    (h : classify context raw = .ok line) {first last : Int}
    (hkind : line.kind = .range first last) : hasStart "RANGE:".toList (trim raw) = true := by
  have hvalued := classify_valued context raw
  generalize classify context raw = result at h hvalued
  cases hvalued with
  | plain hformed _ =>
      cases h
      rw [hkind] at hformed
      cases hformed
  | range _ hkeyword =>
      obtain ⟨rest, hrest⟩ := keyword?_eq_append hkeyword
      exact hasStart_iff.mpr ⟨rest, by rw [hrest]; simp⟩
  | column _ _ | computation _ | navigation _ _ =>
      obtain ⟨_, _, rfl⟩ := Except.map_eq_ok h
      cases hkind

theorem ne_option_of_classifyKeyword? {keyword value : Text} {line : Line}
    (h : classifyKeyword? keyword value = some (.ok line)) : line.kind ≠ .option := by
  unfold classifyKeyword? at h
  repeat' split at h
  case isTrue | isFalse.isTrue =>
    obtain ⟨_, -, rfl⟩ := Except.map_eq_ok (Option.some.inj h)
    exact fun hkind => by cases hkind
  all_goals cases h
  all_goals exact fun hkind => by cases hkind

theorem ne_option_of_classifyQuestionKeyword? {keyword value : Text} {line : Line}
    (h : classifyQuestionKeyword? keyword value = some (.ok line)) : line.kind ≠ .option := by
  unfold classifyQuestionKeyword? at h
  repeat' split at h
  case isFalse.isFalse.isFalse.isFalse.isFalse.isFalse.isTrue =>
    obtain ⟨_, -, rfl⟩ := Except.map_eq_ok (Option.some.inj h)
    exact fun hkind => by cases hkind
  all_goals cases h
  all_goals exact fun hkind => by cases hkind

private theorem hasStart_of_classifyInside {context : Context} {t : Text} {line : Line}
    (h : classifyInside context t = .ok line) (hkind : line.kind = .option) :
    hasStart ['-'] t = true := by
  simp only [classifyInside] at h
  split at h
  · rename_i hfound
    cases h
    obtain ⟨found, -, hor⟩ := Option.bind_eq_some_iff.mp hfound
    rcases Option.or_eq_some_iff.mp hor with hanywhere | ⟨-, hquestion⟩
    · exact absurd hkind (ne_option_of_classifyKeyword? hanywhere)
    · split at hquestion
      · exact absurd hkind (ne_option_of_classifyQuestionKeyword? hquestion)
      · cases hquestion
  · split at h
    · cases h
      cases hkind
    · split at h
      · rename_i content hdash
        split at hdash
        · obtain ⟨rest, hafter, _⟩ := Option.bind_eq_some_iff.mp hdash
          rw [hasStart, hafter, Option.isSome_some]
        · cases hdash
      · cases h
        cases hkind

/-- An option stands behind a dash. -/
theorem hasStart_of_option {context : Context} {raw : Text} {line : Line}
    (h : classify context raw = .ok line) (hkind : line.kind = .option) :
    hasStart ['-'] (trim raw) = true := by
  simp only [classify] at h
  repeat' split at h
  case h_2 => exact hasStart_of_classifyInside h hkind
  all_goals
    cases h
    cases hkind

/-- **A line that makes rows of a question** is behind a dash or is a range, or the question is a
breakdown. -/
theorem starts_of_choices {context : Context} {raw : Text} {line : Line}
    (h : classify context raw = .ok line) {kind : QuestionKind} (hsome : line.choices kind ≠ []) :
    (hasStart ['-'] (trim raw) = true ∨ hasStart "RANGE:".toList (trim raw) = true) ∨
      kind = .breakdown := by
  by_cases hbreakdown : kind = .breakdown
  · exact .inr hbreakdown
  · refine .inl ?_
    cases hkind : line.kind with
    | option => exact .inl (hasStart_of_option h hkind)
    | range first last => exact .inr (hasStart_of_range h hkind)
    | _ =>
        rw [Line.choices, hkind] at hsome
        simp [hbreakdown] at hsome

/-! ## The look ahead of the open question -/

/-- **A look ahead that goes in step with the reading**: it looks at the lines, and has come over
a window of them to the state. If a question is open, the look ahead is that of it. -/
structure Follows (lines window : List Text) (st : State) : Prop where
  /-- Both are outside of fences, or none is. -/
  mode : lookMode .nothing window = some (.ofFence st.isFenced)
  /-- The open question has the kind that it settles on. -/
  kind : ∀ question, st.question? = some question → question.kind = kindAhead lines
  /-- Where a row is selected, one has been heard. -/
  offers : st.selection?.isSome = true →
    (lookAhead .nothing {} window).offers = true ∨ kindAhead lines = .breakdown

namespace Follows

variable {lines window : List Text} {st st' : State} {number : Nat} {raw : Text} {after : List Text}

/-- Where no question is open only the fence counts. -/
theorem of_none (hmode : lookMode .nothing window = some (.ofFence st.isFenced))
    (hstanding : st.content.Standing) (hquestion : st.question? = none) :
    Follows lines window st where
  mode := hmode
  kind := fun question hsome => by
    rw [hquestion] at hsome
    cases hsome
  offers := fun hsome => by
    have hnone : st.selection? = none := hstanding.selection hquestion
    rw [hnone] at hsome
    cases hsome

/-- A question marker begins a look ahead. -/
theorem of_marker (hstanding : st.content.Standing)
    (hmarker : (st.lineOf? raw).map Line.kind = some .question)
    (hread : st.read number raw after = .ok st') : Follows after [] st' := by
  obtain ⟨line, hline, hkind⟩ := Option.map_eq_some_iff.mp hmarker
  have hstanding' := hstanding.read hread
  have hmode : lookMode .nothing [] = some (.ofFence st'.isFenced) := by
    rw [State.isFenced_of_marker hmarker hread]
    rfl
  rw [State.read_of_lineOf? hline] at hread
  have hdivides : line.kind.isDivider = true := by rw [hkind]; rfl
  rcases State.question?_of_isDivider number raw after st hdivides with hnone | ⟨⟨text, hfresh⟩, -⟩
  · rw [Except.ok.inj hread] at hnone
    exact .of_none hmode hstanding' hnone
  · rw [Except.ok.inj hread] at hfresh
    refine ⟨hmode, fun question hquestion => ?_, fun hsome => ?_⟩
    · obtain rfl := Option.some.inj (hfresh.symm.trans hquestion)
      exact State.kind_fresh st text after
    · -- The question has no rows yet that could be selected.
      obtain ⟨selection, hselection⟩ := Option.isSome_iff_exists.mp hsome
      obtain ⟨question, hquestion, hhas⟩ := hstanding'.selected selection hselection
      obtain rfl := Option.some.inj (hfresh.symm.trans hquestion)
      cases selection with
      | option => exact absurd (State.options_fresh st text after) hhas
      | row => exact absurd (State.rows_fresh st text after) hhas

/-- **One line more**: the look ahead is over, or still in step. -/
theorem read (h : Follows lines window st) (hstanding : st.content.Standing)
    (hcapture : st.capture? = none) (hraw : ¬ quotes <:+: raw)
    (hread : st.read number raw after = .ok st') :
    lookMode .nothing (window ++ [raw]) = none ∨ Follows lines (window ++ [raw]) st' := by
  have hmode : lookMode .nothing (window ++ [raw]) = lookStep (.ofFence st.isFenced) raw := by
    rw [lookMode_concat, h.mode, Option.bind_some]
  rcases lookStep_unquoted hraw st.isFenced with hstep | hstep
  · exact .inl (hmode.trans hstep)
  refine .inr ?_
  have hstanding' := hstanding.read hread
  have hnext : lookMode .nothing (window ++ [raw]) = some (.ofFence st'.isFenced) := by
    rw [hmode, hstep, State.isFenced_read hcapture hread]
  have hheard : lookAhead .nothing {} (window ++ [raw])
      = (lookAhead .nothing {} window).hear (.ofFence st.isFenced) raw := by
    rw [lookAhead_append h.mode, lookAhead_cons, hstep]
    rfl
  have hkept : (lookAhead .nothing {} window).offers = true ∨ kindAhead lines = .breakdown →
      (lookAhead .nothing {} (window ++ [raw])).offers = true ∨ kindAhead lines = .breakdown := by
    rw [hheard]
    exact Or.imp_left fun hoffers => Signals.offers_hear hoffers _ _
  have htakes := State.read_takes hread
  generalize hcontent : st'.content = next at htakes
  have hquestion' : st'.question? = next.question? := congrArg Content.question? hcontent
  have hselection' : st'.selection? = next.selection? := congrArg Content.selection? hcontent
  cases htakes with
  | quoted hsome | unquoted hsome => cases hcapture.symm.trans hsome
  | @continued question _ hquestion _ =>
      refine ⟨hnext, fun open' hopen => ?_, fun hsome => hkept (h.offers ?_)⟩
      case refine_2 => rwa [hselection'] at hsome
      obtain rfl := Option.some.inj (hquestion'.symm.trans hopen)
      exact h.kind question hquestion
  | said _ => exact .of_none hnext hstanding' (hquestion'.trans (Content.question?_closeQuestion _))
  | divided _ _ _ =>
      exact .of_none hnext hstanding' (hquestion'.trans (Content.question?_closeQuestion _))
  | asked hline hkind =>
      -- The marker of another question ends the look ahead.
      obtain ⟨-, hfence, hfenced, hclassify⟩ := State.lineOf?_eq_some.mp hline
      have hends : endsQuestion (trim raw) = true := by
        rw [endsQuestion, isQuestionMarker, (stands_of_classify hclassify).question hkind]
        rfl
      rw [hfenced] at hstep
      simp [lookStep, Skipping.ofFence, hfence, hends] at hstep
  | spaced _ _ hquestion => exact .of_none hnext hstanding' (hquestion'.trans hquestion)
  | noted _ _ _ hquestion other hother _ _ =>
      refine .of_none hnext hstanding' (hquestion'.trans ?_)
      rcases hother with rfl | rfl
      · exact hquestion
      · exact Content.question?_closeQuestion _
  | @inside line question next selection? _ _ hline hkind _ hquestion heffect =>
      obtain ⟨-, hfence, hfenced, hclassify⟩ := State.lineOf?_eq_some.mp hline
      refine ⟨hnext, fun open' hopen => ?_, fun hsome => ?_⟩
      · obtain rfl := Option.some.inj (hquestion'.symm.trans hopen)
        exact heffect.stays.2.2.trans (h.kind question hquestion)
      · -- What makes a row is heard.
        have hstart : (hasStart ['-'] (trim raw) = true ∨
            hasStart "RANGE:".toList (trim raw) = true) →
            (lookAhead .nothing {} (window ++ [raw])).offers = true := by
          intro hstart
          have hends : endsQuestion (trim raw) = false := by
            cases hends : endsQuestion (trim raw) with
            | false => rfl
            | true =>
                rw [hfenced] at hstep
                simp [lookStep, Skipping.ofFence, hfence, hends] at hstep
          have hopens : opensQuotes (trim raw) = false :=
            opensQuotes_of_unquoted fun hquotes => hraw (hquotes.trans (isInfix_trim raw))
          rw [hheard, hfenced, Signals.hear,
            if_pos (by simp [isHeard, Skipping.ofFence, hfence, hends, hopens])]
          exact Signals.offers_add_of_start hstart _
        rcases heffect.alike_or_makes with ⟨_, hsame⟩ | ⟨added, hadded, hne, _⟩ | ⟨hrow, _⟩
        · refine hkept (h.offers ?_)
          rw [hselection'] at hsome
          rwa [← hsame]
        · have hchoices : line.choices question.kind ≠ [] := fun hnil =>
            hne (List.map_eq_nil_iff.mp (hadded.trans hnil))
          rw [h.kind question hquestion] at hchoices
          exact (starts_of_choices hclassify hchoices).imp_left hstart
        · have hfits := (classify_spec hclassify).2
          rw [hrow.1] at hfits
          exact .inl (hstart (.inl (hasStart_of_isMatrixRow hfits)))

end Follows

/-- The look aheads of all questions that were begun are over or in step. -/
structure Followed (past : List Step) (st : State) (rest : List Text) : Prop where
  /-- What is open at the same time. -/
  standing : st.content.Standing
  /-- Without quotes so far. -/
  follows : (∀ step ∈ past, ¬ quotes <:+: step.raw) → st.capture? = none ∧
    ∀ marker ∈ past, marker.IsMarker → ∃ window, marker.behind = window ++ rest ∧
      (lookMode .nothing window = none ∨ Follows marker.behind window st)

theorem Followed.step {past : List Step} {step : Step}
    (h : Followed past step.before (step.raw :: step.behind))
    (hread : step.before.read step.number step.raw step.behind = .ok step.after) :
    Followed (past ++ [step]) step.after step.behind := by
  refine ⟨h.standing.read hread, fun hunquoted => ?_⟩
  obtain ⟨hcapture, hfollows⟩ := h.follows fun other hother =>
    hunquoted other (List.mem_append_left _ hother)
  have hraw := hunquoted step (by simp)
  refine ⟨State.capture?_read hcapture hraw hread, fun marker hmem hmarker => ?_⟩
  rcases List.mem_append.mp hmem with hmem | hmem
  · obtain ⟨window, hwindow, hover | hinstep⟩ := hfollows marker hmem hmarker
    · refine ⟨window ++ [step.raw], by rw [hwindow]; simp, .inl ?_⟩
      rw [lookMode_concat, hover, Option.bind_none]
    · exact ⟨window ++ [step.raw], by rw [hwindow]; simp,
        hinstep.read h.standing hcapture hraw hread⟩
  · obtain rfl := List.mem_singleton.mp hmem
    exact ⟨[], rfl, .inr (.of_marker h.standing hmarker hread)⟩

/-- **Up to a line without quotes before it** every look ahead is over or in step. -/
theorem follows_of_steps {lines : List Text} {earlier later : List Step} {step : Step}
    (hsteps : steps 0 {} lines = earlier ++ step :: later)
    (hunquoted : ∀ other ∈ earlier, ¬ quotes <:+: other.raw) :
    step.before.capture? = none ∧ ∀ marker ∈ earlier, marker.IsMarker →
      ∃ window, marker.behind = window ++ step.raw :: step.behind ∧
        (lookMode .nothing window = none ∨ Follows marker.behind window step.before) := by
  have hstart : Followed [] {} lines :=
    ⟨Content.standing_empty, fun _ => ⟨rfl, fun marker hmem => absurd hmem List.not_mem_nil⟩⟩
  have hfollowed := (steps_invariant (fun _ _ => Followed.step) [] hstart hsteps).1
  rw [List.nil_append] at hfollowed
  exact hfollowed.follows hunquoted

end Questionnaire.Source
