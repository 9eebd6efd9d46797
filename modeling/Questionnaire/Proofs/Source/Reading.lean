import Questionnaire.Proofs.Source.Lines
import Questionnaire.Proofs.Source.Questions

/-!
# What a line does to the questions

A line leaves the open question open, or closes it, or closes it and opens the
next one (`read_turns`). A question that stays open keeps its identifier
and its kind, and its new options have values without blanks around them.
-/

namespace Questionnaire.Source.State

open Text Decimal

/-! ## Lines that mean something only inside a question -/

theorem not_isBlank_of_mem_writeNat {n : Nat} {c : Char} (h : c ∈ writeNat n) :
    isBlank c = false := by
  have hdigit : c.isDigit = true := Nat.isDigit_of_mem_toDigits (by decide) (by decide) h
  simp only [Char.isDigit, Bool.and_eq_true, decide_eq_true_eq, UInt32.le_iff_toNat_le,
    ge_iff_le] at hdigit
  have hbounds : 48 ≤ c.toNat ∧ c.toNat ≤ 57 := hdigit
  have hascii : c.toNat < 128 := by omega
  simp only [isBlank, hascii, if_true, Bool.or_eq_false_iff, Bool.and_eq_false_iff,
    decide_eq_false_iff_not]
  omega

theorem not_isBlank_of_mem_writeInt {n : Int} {c : Char} (h : c ∈ writeInt n) :
    isBlank c = false := by
  rw [writeInt] at h
  split at h
  · rcases List.mem_cons.mp h with rfl | h
    · decide
    · exact not_isBlank_of_mem_writeNat h
  · exact not_isBlank_of_mem_writeNat h

private theorem writeInt_trimmed (n : Int) : trim (writeInt n) = writeInt n :=
  trim_of_no_blank fun _ => not_isBlank_of_mem_writeInt

/-- The line as it is classified, unless it stands inside quotes or belongs to
fenced text. -/
def lineOf? (st : State) (raw : Text) : Option Line :=
  if st.capture?.isSome || hasStart fence (trim raw) || st.isFenced then none
  else (classify st.context raw).toOption

theorem lineOf?_eq_some {st : State} {raw : Text} {line : Line} :
    st.lineOf? raw = some line ↔ st.capture? = none ∧ hasStart fence (trim raw) = false ∧
      st.isFenced = false ∧ classify st.context raw = .ok line := by
  simp only [lineOf?, Option.ite_none_left_eq_some, Bool.or_eq_true, not_or,
    Bool.not_eq_true, Option.isSome_eq_false_iff, Option.isNone_iff_eq_none, and_assoc]
  cases classify st.context raw <;> simp [Except.toOption]

/-- A line that is classified is read as what it is. -/
theorem read_of_lineOf? {st : State} {raw : Text} {line : Line}
    (h : st.lineOf? raw = some line) (number : Nat) (after : List Text) :
    st.read number raw after = .ok (st.readLine number line raw after) := by
  obtain ⟨hcapture, hfence, hfenced, hclassify⟩ := lineOf?_eq_some.mp h
  simp [read, hcapture, hfence, hfenced, hclassify, Except.map]

namespace Keeps

variable {st : State} {question : Question}

theorem readUnit (isBefore : Bool) (line : Nat) (value : Text) (h : st.question? = some question) :
    Keeps st (st.readUnit isBefore line value question) := by
  rw [State.readUnit]
  split
  · rename_i before after hbody
    refine Keeps.mapQuestion fun q hq => ?_
    obtain rfl : question = q := Option.some.inj (h.symm.trans hq)
    cases isBefore <;> exact Question.Becomes.withBody (by rw [hbody]; rfl) (by rw [hbody]; rfl)
  · rename_i options before after label column hbody
    refine Keeps.mapQuestion fun q hq => ?_
    obtain rfl : question = q := Option.some.inj (h.symm.trans hq)
    cases isBefore <;> exact Question.Becomes.withBody (by rw [hbody]; rfl) (by rw [hbody]; rfl)
  · exact Keeps.warn _ _ st

theorem readTotal (line : Nat) (value : Text) (h : st.question? = some question) :
    Keeps st (st.readTotal line value question) := by
  rw [State.readTotal]
  split
  · rename_i options before after label column hbody
    refine Keeps.mapQuestion fun q hq => ?_
    obtain rfl : question = q := Option.some.inj (h.symm.trans hq)
    exact Question.Becomes.withBody (by rw [hbody]; rfl) (by rw [hbody]; rfl)
  · exact Keeps.warn _ _ st

theorem readSubtotal (line : Nat) {value : Text} (question : Question)
    (hvalue : trim value = value) : Keeps st (st.readSubtotal line value question) := by
  rw [State.readSubtotal]
  split
  · exact Keeps.mapRow _
  · refine Keeps.addOptions fun c hc => ?_
    rw [List.mem_singleton.mp hc]
    exact hvalue
  · exact Keeps.warn _ _ st

theorem readRange (first last : Int) (line : Nat) (question : Question) :
    Keeps st (st.readRange first last line question) := by
  rw [State.readRange]
  split
  · refine Keeps.addOptions fun c hc => ?_
    obtain ⟨n, _, rfl⟩ := List.mem_map.mp hc
    exact writeInt_trimmed n
  · exact Keeps.warn _ _ st

theorem readInput (word : InputWord) (line : Nat) (h : st.question? = some question) :
    Keeps st (st.readInput word line question) := by
  rw [State.readInput]
  split
  · exact Keeps.refl st
  · split
    · rename_i rows options old input hbody _
      refine Keeps.mapQuestion fun q hq => ?_
      obtain rfl : question = q := Option.some.inj (h.symm.trans hq)
      exact Question.Becomes.withBody (by rw [hbody]; rfl) (by rw [hbody]; rfl)
    · exact Keeps.warn _ _ st

theorem readOption (line : Nat) {value : Text} (question : Question)
    (hvalue : trim value = value) : Keeps st (st.readOption line value question) := by
  rw [State.readOption]
  split
  · refine Keeps.addOptions fun c hc => ?_
    rw [List.mem_singleton.mp hc]
    exact hvalue
  · exact Keeps.warn _ _ st

theorem readMatrixRow (line : Nat) (value : Text) (question : Question) :
    Keeps st (st.readMatrixRow line value question) := by
  rw [State.readMatrixRow]
  split
  · exact (Keeps.mapQuestion fun _ _ => Question.Becomes.mapRows).trans (Keeps.of_eq rfl rfl id)
  · exact Keeps.warn _ _ st

theorem readHeader (line : Nat) {value : Text} (question : Question)
    (hvalue : trim value = value) : Keeps st (st.readHeader line value question) := by
  rw [State.readHeader]
  split
  · refine Keeps.addOptions fun c hc => ?_
    rw [List.mem_singleton.mp hc]
    exact hvalue
  · exact Keeps.warn _ _ st

theorem readSeparator (line : Nat) (question : Question) :
    Keeps st (st.readSeparator line question) := by
  rw [State.readSeparator]
  split
  · refine Keeps.addOptions fun c hc => ?_
    rw [List.mem_singleton.mp hc]
    -- The value is made up of a word and a number.
    refine trim_of_no_blank fun d hd => ?_
    rcases List.mem_append.mp hd with hd | hd
    · have hall : "separator-".toList.all (!isBlank ·) = true := by decide
      simpa using List.all_eq_true.mp hall d hd
    · exact not_isBlank_of_mem_writeNat hd
  · exact Keeps.warn _ _ st

theorem modifyRow (change : Modifier) (line : Nat) (value : Text) (row : Row) :
    Keeps st (st.modifyRow change line value row) := by
  cases change <;> first
    | exact Keeps.assign _ _ _ _ st
    | exact Keeps.mapRow _
    | exact Keeps.warn _ _ st

theorem modifyOption (change : Modifier) (line : Nat) (value : Text) (question : Question) :
    Keeps st (st.modifyOption change line value question) := by
  have hamount : Keeps st (if question.isBreakdown then st.mapOption (modifyAmount change value)
      else st.warn line (.onlyBreakdown change question.id)) := by
    split
    · exact Keeps.mapOption fun choice => by cases change <;> rfl
    · exact Keeps.warn _ _ st
  cases change <;> first
    | exact hamount
    | exact Keeps.assign _ _ _ _ st
    | exact Keeps.mapOption fun _ => rfl

theorem readModifier (change : Modifier) (line : Nat) (value : Text) (question : Question) :
    Keeps st (st.readModifier change line value question) := by
  rw [State.readModifier]
  split
  · exact Keeps.modifyRow change line value _
  · split
    · exact Keeps.warn _ _ st
    · exact Keeps.modifyOption change line value question

theorem readColumn (column : Nat) (line : Nat) (question : Question) :
    Keeps st (st.readColumn column line question) := by
  rw [State.readColumn]
  split
  · exact Keeps.warn _ _ st
  · split
    · exact Keeps.warn _ _ st
    · split
      · exact Keeps.mapOption fun _ => rfl
      · exact Keeps.warn _ _ st

/-- **A line inside a question leaves it open**, with what it was before. -/
theorem readInside (number : Nat) {line : Line} (hline : trim line.value = line.value)
    (h : st.question? = some question) : Keeps st (st.readInside number line question) := by
  rw [State.readInside]
  split
  · exact Keeps.assign _ _ _ _ st
  · exact Keeps.mapQuestion fun q _ => Question.Becomes.of_body rfl rfl
  · exact Keeps.readInput _ _ h
  · exact Keeps.readUnit _ _ _ h
  · exact Keeps.readUnit _ _ _ h
  · exact Keeps.readTotal _ _ h
  · exact Keeps.readSubtotal _ question hline
  · exact Keeps.readSubtotal _ question hline
  · exact Keeps.readRange _ _ _ question
  · exact Keeps.readOption _ question hline
  · exact Keeps.readMatrixRow _ _ question
  · exact Keeps.readModifier _ _ _ question
  · exact Keeps.readColumn _ _ question
  · exact Keeps.readHeader _ question hline
  · exact Keeps.readSeparator _ question
  · exact Keeps.refl st

end Keeps

/-! ## Any line -/

/-- The question that a marker begins, before anything is added to it. -/
def fresh (st : State) (text : Text) (after : List Text) : Question :=
  { id := 'Q' :: writeNat (st.count + 1), text, body := .ofKind (kindAhead after) }

/-- **What a line does to the questions.** -/
inductive Turns (st : State) (after : List Text) (st' : State) : Prop where
  /-- The open question stays, if there is one. -/
  | keeps (h : Keeps st st')
  /-- The open question is closed, if there is one. -/
  | closes
      (closed : st'.closedQuestions
        = st.closedQuestions ++ (st.question?.map Question.settled).toList)
      (none : st'.question? = none)
  /-- A question is opened behind it. -/
  | opens (text : Text)
      (closed : st'.closedQuestions
        = st.closedQuestions ++ (st.question?.map Question.settled).toList)
      (fresh : st'.question? = some (st.fresh text after))
      (quiet : st'.isFenced = false ∧ st'.capture? = none)

/-- Only the questions and their number matter of the state before. -/
private theorem Turns.of_same {st st' : State} {after : List Text} (same : State)
    (hclosed : same.closedQuestions = st.closedQuestions) (hopen : same.question? = st.question?)
    (hcount : same.count = st.count) (hfence : st.isFenced = false → same.isFenced = false)
    (h : Turns same after st') : Turns st after st' := by
  cases h with
  | keeps h => exact .keeps ((Keeps.of_eq hclosed hopen hfence).trans h)
  | closes closed none => exact .closes (hclosed ▸ hopen ▸ closed) none
  | opens text closed fresh quiet =>
      refine .opens text (hclosed ▸ hopen ▸ closed) ?_ quiet
      rw [fresh, State.fresh, State.fresh, hcount]

@[simp] theorem count_ensurePage (st : State) : st.ensurePage.count = st.count := rfl

@[simp] theorem count_closeQuestion (st : State) : st.closeQuestion.count = st.count := by
  rw [closeQuestion]
  split <;> rfl

@[simp] theorem count_closeText (st : State) : st.closeText.count = st.count := by
  rw [closeText]
  split <;> rfl

/-- Fenced text belongs to no question. -/
theorem readText_of_isFenced (raw : Text) {st : State} (h : st.isFenced = true) :
    st.readText raw
      = { st.closeQuestion with pending := st.closeQuestion.pending ++ [trimRight raw] } := by
  simp [readText, h]

private theorem readText_turns (raw : Text) (after : List Text) (st : State) :
    Turns st after (st.readText raw) := by
  rw [readText]
  split
  · exact .keeps (Keeps.mapQuestion fun q _ => Question.Becomes.of_body rfl rfl)
  · exact .closes (closedQuestions_closeQuestion st) (question?_closeQuestion st)

private theorem readQuestion_turns (text : Text) (after : List Text) {st : State}
    (hfence : st.isFenced = false) (hcapture : st.capture? = none) :
    Turns st after (st.readQuestion text after) := by
  have hclosed : (st.readQuestion text after).closedQuestions
      = st.closeQuestion.closeText.ensurePage.closedQuestions := by
    rw [readQuestion]
    cases hpart : st.closeQuestion.closeText.ensurePage.part? <;>
      simp [closedQuestions, hpart, Section.questions]
  refine .opens text ?_ ?_ ?_
  · rw [hclosed, closedQuestions_ensurePage, closedQuestions_closeText,
      closedQuestions_closeQuestion]
  · simp [readQuestion, fresh]
  · simp [readQuestion, ensurePage, hfence, hcapture]

theorem question?_readComputation (computed : Text × Text) (st : State) :
    (st.readComputation computed).question? = none := by
  rw [readComputation]
  cases hpage : st.closeQuestion.closeText.page? <;> simp

private theorem readComputation_turns (computed : Text × Text) (after : List Text) (st : State) :
    Turns st after (st.readComputation computed) := by
  refine .closes ?_ (question?_readComputation computed st)
  rw [← closedQuestions_closeQuestion, ← closedQuestions_closeText st.closeQuestion,
    readComputation]
  cases hpage : st.closeQuestion.closeText.page? <;>
    simp [closedQuestions, hpage, Page.questions, Block.questions]

private theorem readLevel_keeps (level : Nat) (st : State) : Keeps st (st.readLevel level) := by
  rw [readLevel]
  split
  · exact Keeps.of_eq rfl rfl id
  · exact (Keeps.ensurePage st).trans (Keeps.of_eq rfl rfl id)

private theorem readTooltip_keeps (line : Nat) (value : Text) (st : State) :
    Keeps st (st.readTooltip line value) := by
  rw [readTooltip]
  split
  · exact Keeps.assign _ _ _ _ st
  · split
    · exact (Keeps.closeText st).trans (Keeps.assign _ _ _ _ _)
    · exact (Keeps.ensurePage st).trans (Keeps.assign _ _ _ _ _)

private theorem readBlank_keeps (st : State) : Keeps st st.readBlank := by
  rw [readBlank]
  split
  · exact Keeps.of_eq rfl rfl id
  · exact Keeps.refl st

private theorem readLine_turns (number : Nat) {line : Line} (raw : Text) (after : List Text)
    {st : State} (hfence : st.isFenced = false) (hcapture : st.capture? = none)
    (hline : trim line.value = line.value) :
    Turns st after (st.readLine number line raw after) := by
  have hquiet : Keeps st { st with textOpen := false } := Keeps.of_eq rfl rfl id
  -- A section that begins holds nothing yet, so no question is added.
  have hsection : ∀ part : Section, part.items = [] → Turns st after
      { ({ st with textOpen := false } : State).closeSection.ensurePage with
        part? := some part } := by
    intro part hpart
    refine .closes ?_ (question?_closeSection _)
    have h := closedQuestions_closeSection { st with textOpen := false }
    rw [← closedQuestions_ensurePage] at h
    refine Eq.trans ?_ h
    simp [closedQuestions, ensurePage, Section.questions, hpart]
  rw [readLine]
  split
  · exact readText_turns raw after st
  · exact .keeps (hquiet.trans (readBlank_keeps _))
  · refine .closes ?_ (question?_closePage _)
    refine Eq.trans ?_ (closedQuestions_closePage { st with textOpen := false })
    simp [closedQuestions, Page.questions]
  · refine .closes ?_ (question?_closeBlock _)
    refine Eq.trans ?_ (closedQuestions_closeBlock { st with textOpen := false })
    simp [closedQuestions, closeBlock, Block.questions]
  · exact hsection _ rfl
  · exact Turns.of_same { st with textOpen := false } rfl rfl rfl id
      (readQuestion_turns _ after hfence hcapture)
  · exact .keeps (hquiet.trans (readLevel_keeps _ _))
  · exact Turns.of_same { st with textOpen := false } rfl rfl rfl id
      (readComputation_turns _ after _)
  · exact .keeps (hquiet.trans (Keeps.assign _ _ _ _ _))
  · exact .keeps (hquiet.trans (readTooltip_keeps _ _ _))
  · split
    · exact .keeps hquiet
    · rename_i question hquestion
      exact .keeps (hquiet.trans (Keeps.readInside number hline hquestion))

/-- Behind a line that ends a question none is open, or the one that the line
begins. -/
theorem question?_of_isDivider (number : Nat) {line : Line} (raw : Text) (after : List Text)
    (st : State) (h : line.kind.isDivider = true) :
    (st.readLine number line raw after).question? = none ∨
      (∃ text, (st.readLine number line raw after).question? = some (st.fresh text after)) ∧
        (st.readLine number line raw after).capture? = st.capture? := by
  rw [readLine]
  split
  -- The dividers in the order of `readLine`: page, block, section, question, computation.
  case h_3 => exact .inl (question?_closePage _)
  case h_4 => exact .inl (question?_closeBlock _)
  case h_5 => exact .inl (question?_closeSection _)
  case h_6 =>
    exact .inr ⟨⟨line.value, by simp [readQuestion, fresh]⟩, by simp [readQuestion, ensurePage]⟩
  case h_8 => exact .inl (question?_readComputation _ _)
  all_goals simp_all [LineKind.isDivider]

/-- **What a line does to the questions**, whatever the line is. -/
theorem read_turns {number : Nat} {raw : Text} {after : List Text} {st st' : State}
    (h : st.read number raw after = .ok st') : Turns st after st' := by
  rw [read] at h
  split at h
  · cases h
    exact .keeps (Keeps.readQuoted _ raw st)
  · split at h
    · cases h
      cases hfence : st.isFenced with
      | false =>
          rw [readText_of_isFenced raw rfl]
          refine .closes ?_ (question?_closeQuestion _)
          exact closedQuestions_closeQuestion { st with isFenced := true }
      | true =>
          exact Turns.of_same { st with isFenced := false } rfl rfl rfl (fun _ => rfl)
            (readText_turns raw after _)
    · split at h
      · cases h
        exact readText_turns raw after st
      · rename_i hcapture _ hfence
        cases hline : classify st.context raw with
        | error _ => simp [hline, Except.map] at h
        | ok line =>
            simp only [hline, Except.map, Except.ok.injEq] at h
            exact h ▸ readLine_turns number raw after (by simpa using hfence) hcapture
              (classify_spec hline).1

end Questionnaire.Source.State
