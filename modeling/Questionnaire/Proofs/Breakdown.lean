import Questionnaire.Breakdown
import Questionnaire.Proofs.Source.Ledger

/-!
# The arithmetic of a breakdown and its lines

The total of a breakdown adds up the signed cells of the amounts that its lines
post and do not exclude, and a subtotal those behind the last heading or subtotal
before it (`figures_of_compile`). A subtotal is told from an amount by its label,
so each must have one.
-/

namespace Questionnaire

open Text Decimal Source

/-- Whether the value is a text or a number, as the cells of a form are. -/
def Value.IsCell : Value → Prop
  | .text _ => True
  | .float _ => True
  | _ => False

namespace Posting

/-- Whether the row is counted. -/
def counts (posting : Posting) : Bool := posting.role = .amount && !posting.isExcluded

/-- Whether the row begins a new sum. -/
def isBoundary (posting : Posting) : Bool :=
  posting.role = .heading || posting.role = .subtotal

/-- Whether the row is a subtotal. -/
def isSubtotal (posting : Posting) : Bool := posting.role = .subtotal

/-- The cell of the row with its sign; a row without a cell has zero. -/
def amount (cells : Scope) (posting : Posting) : Float :=
  let x := (Breakdown.amount? (cells.get? posting.name)).getD 0
  if posting.isSubtracted then -x else x

end Posting

namespace Breakdown

/-- The signed cells of the rows that count added to `running` in order. -/
def sumFrom (cells : Scope) (running : Float) (postings : List Posting) : Float :=
  (postings.filter Posting.counts).foldl (fun sum posting => sum + posting.amount cells) running

/-- The figure of a subtotal behind other rows: what its formula says, or the sum of
the rows behind the last heading or subtotal. -/
def figure (cells scope : Scope) (before : List Posting) (subtotal : Posting) : Float :=
  match given? subtotal.custom with
  | some formula => Formula.evaluate formula scope
  | none => sumFrom cells 0 (behindLast Posting.isBoundary before)

/-- **The figures are those of the subtotals** among the rows, one for each in their
order, where some rows stand before. -/
structure AreFigures (cells scope : Scope) (before postings : List Posting)
    (figures : List (Choice × Float)) : Prop where
  /-- There are as many. -/
  length : figures.length = postings.countP Posting.isSubtotal
  /-- Each stands in its place. -/
  figure : ∀ front subtotal back, postings = front ++ subtotal :: back →
    subtotal.isSubtotal = true → ∃ choice, subtotal.Records choice ∧
      figures[front.countP Posting.isSubtotal]?
        = some (choice, Breakdown.figure cells scope (before ++ front) subtotal)

/-- Every subtotal has a label. -/
def AreLabelled (postings : List Posting) : Prop :=
  ∀ posting ∈ postings, posting.isSubtotal = true → posting.name ≠ []

/-! ## Rows -/

theorem exists_amount? {cells : Scope} (hcells : ∀ binding ∈ cells, binding.2.IsCell)
    (name : Text) : ∃ x, amount? (cells.get? name) = some x := by
  cases hcell : cells.get? name with
  | none => exact ⟨0, rfl⟩
  | some value =>
      obtain ⟨front, back, rfl, _⟩ := List.lookup_eq_some_iff.mp hcell
      have hvalue : value.IsCell := hcells (name, value) (by simp)
      cases value with
      | text t => exact ⟨_, rfl⟩
      | float x => exact ⟨x, rfl⟩
      | _ => exact absurd hvalue id

section

variable {posting : Posting} {choice : Choice} (h : posting.Records choice)
include h

theorem signed?_of_records {cells : Scope} (hcells : ∀ binding ∈ cells, binding.2.IsCell) :
    signed? cells choice = some (posting.amount cells) := by
  obtain ⟨x, hx⟩ := exists_amount? hcells posting.name
  simp only [signed?, Posting.amount, h.name, h.subtract, hx, Option.map_some, Option.getD_some]

variable (hlabel : posting.isSubtotal = true → posting.name ≠ [])
include hlabel

/-- A subtotal is told by its label. -/
theorem isSome_subtotalLabel :
    (given? choice.subtotalLabel).isSome = posting.isSubtotal := by
  rw [h.subtotal]
  by_cases hrole : posting.role = .subtotal
  · have hname := hlabel (by simp [Posting.isSubtotal, hrole])
    simp [given?, hrole, Posting.isSubtotal, hname]
  · simp [given?, hrole, Posting.isSubtotal]

theorem counts_of_records :
    (choice.isStructural || isSet choice.exclude) = !posting.counts := by
  rw [Choice.isStructural, isSome_subtotalLabel h hlabel, h.header, h.separator, h.exclude]
  simp only [Posting.counts, Posting.isSubtotal]
  cases posting.role <;> simp

end

/-! ## The total -/

theorem sumFrom_cons (cells : Scope) (running : Float) (posting : Posting)
    (postings : List Posting) : sumFrom cells running (posting :: postings)
      = if posting.counts then sumFrom cells (running + posting.amount cells) postings
        else sumFrom cells running postings := by
  cases hcounts : posting.counts <;> simp [sumFrom, hcounts]

theorem sumFrom_concat (cells : Scope) (running : Float) (postings : List Posting)
    (posting : Posting) : sumFrom cells running (postings ++ [posting])
      = if posting.counts then sumFrom cells running postings + posting.amount cells
        else sumFrom cells running postings := by
  cases hcounts : posting.counts <;> simp [sumFrom, hcounts]

section

variable {cells : Scope} (hcells : ∀ binding ∈ cells, binding.2.IsCell)
  {postings : List Posting} {options : List Choice}
  (h : List.Forall₂ Posting.Records postings options)
  (hlabels : AreLabelled postings)
include hcells h hlabels

/-- **The total adds up the rows that count.** -/
theorem addRows?_of_records (running : Float) :
    addRows? cells running options = some (sumFrom cells running postings) := by
  induction h generalizing running with
  | nil => rfl
  | @cons posting choice rest others hfirst hrest ih =>
      have hlabel := hlabels posting List.mem_cons_self
      have hothers := ih fun other hother => hlabels other (List.mem_cons_of_mem _ hother)
      rw [addRows?, counts_of_records hfirst hlabel, sumFrom_cons]
      cases hcounts : posting.counts with
      | false => simpa using hothers running
      | true =>
          rw [signed?_of_records hfirst hcells]
          simpa using hothers (running + posting.amount cells)

end

/-! ## Subtotals -/

/-- The sum so far behind one more row. -/
theorem sumFrom_behindLast_concat (cells : Scope) (before : List Posting) (posting : Posting) :
    sumFrom cells 0 (behindLast Posting.isBoundary (before ++ [posting]))
      = if posting.isBoundary then 0
        else if posting.counts then
          sumFrom cells 0 (behindLast Posting.isBoundary before) + posting.amount cells
        else sumFrom cells 0 (behindLast Posting.isBoundary before) := by
  rw [behindLast_concat]
  split
  · rfl
  · exact sumFrom_concat cells 0 _ posting

namespace AreFigures

variable {cells scope : Scope} {before rest : List Posting} {posting : Posting}
  {figures : List (Choice × Float)}

/-- Any other row has no figure. -/
theorem cons_other (h : AreFigures cells scope (before ++ [posting]) rest figures)
    (hother : posting.isSubtotal = false) :
    AreFigures cells scope before (posting :: rest) figures := by
  refine ⟨by simpa [hother] using h.length, fun front subtotal back hsplit hsubtotal => ?_⟩
  cases front with
  | nil =>
      obtain ⟨rfl, _⟩ := List.cons.inj hsplit
      rw [hsubtotal] at hother
      cases hother
  | cons first front =>
      obtain ⟨rfl, hrest⟩ := List.cons.inj hsplit
      obtain ⟨choice, hrecords, hfigure⟩ := h.figure front subtotal back hrest hsubtotal
      refine ⟨choice, hrecords, ?_⟩
      rw [List.countP_cons_of_neg (by simp [hother]), hfigure, List.append_assoc,
        List.singleton_append]

/-- A subtotal has the first figure. -/
theorem cons_subtotal (h : AreFigures cells scope (before ++ [posting]) rest figures)
    (hsubtotal : posting.isSubtotal = true) {choice : Choice} (hrecords : posting.Records choice) :
    AreFigures cells scope before (posting :: rest)
      ((choice, Breakdown.figure cells scope before posting) :: figures) := by
  refine ⟨by simp [hsubtotal, h.length], fun front subtotal back hsplit hsubtotal' => ?_⟩
  cases front with
  | nil =>
      obtain ⟨rfl, _⟩ := List.cons.inj hsplit
      exact ⟨choice, hrecords, by simp⟩
  | cons first front =>
      obtain ⟨rfl, hrest⟩ := List.cons.inj hsplit
      obtain ⟨other, hother, hfigure⟩ := h.figure front subtotal back hrest hsubtotal'
      refine ⟨other, hother, ?_⟩
      rw [List.countP_cons_of_pos hsubtotal, List.getElem?_cons_succ, hfigure, List.append_assoc,
        List.singleton_append]

end AreFigures

section

variable {cells : Scope} (hcells : ∀ binding ∈ cells, binding.2.IsCell)
  {postings : List Posting} {options : List Choice}
  (h : List.Forall₂ Posting.Records postings options)
  (hlabels : AreLabelled postings)
include hcells h hlabels

/-- **Every subtotal has its figure.** -/
theorem subtotalsFrom?_of_records (scope : Scope) (before : List Posting) :
    ∃ figures,
      subtotalsFrom? cells scope (sumFrom cells 0 (behindLast Posting.isBoundary before)) options
        = some figures ∧ AreFigures cells scope before postings figures := by
  induction h generalizing before with
  | nil => exact ⟨[], rfl, rfl, fun front subtotal back hnil => by simp at hnil⟩
  | @cons posting choice rest others hfirst hrest ih =>
      have hlabel := hlabels posting List.mem_cons_self
      obtain ⟨figures, hfigures, hare⟩ :=
        ih (fun other hother => hlabels other (List.mem_cons_of_mem _ hother)) (before ++ [posting])
      have htold := isSome_subtotalLabel hfirst hlabel
      rw [sumFrom_behindLast_concat] at hfigures
      have hsubtotal : posting.isSubtotal = decide (posting.role = .subtotal) := rfl
      rw [subtotalsFrom?, htold, hfirst.header, hfirst.separator, hfirst.exclude]
      cases hrole : posting.role with
      | subtotal =>
          have hboundary : posting.isBoundary = true := by simp [Posting.isBoundary, hrole]
          rw [if_pos hboundary] at hfigures
          refine ⟨(choice, figure cells scope before posting) :: figures, ?_,
            hare.cons_subtotal (by simp [hsubtotal, hrole]) hfirst⟩
          rw [if_pos (by simp [hsubtotal, hrole]), hfigures, hfirst.custom, figure]
          cases given? posting.custom <;> rfl
      | heading =>
          have hboundary : posting.isBoundary = true := by simp [Posting.isBoundary, hrole]
          rw [if_pos hboundary] at hfigures
          refine ⟨figures, ?_, hare.cons_other (by simp [hsubtotal, hrole])⟩
          rw [if_neg (by simp [hsubtotal, hrole]), if_pos (by simp), hfigures]
      | separator =>
          have hboundary : posting.isBoundary = false := by simp [Posting.isBoundary, hrole]
          have hcounts : posting.counts = false := by simp [Posting.counts, hrole]
          rw [if_neg (by simp [hboundary]), if_neg (by simp [hcounts])] at hfigures
          refine ⟨figures, ?_, hare.cons_other (by simp [hsubtotal, hrole])⟩
          rw [if_neg (by simp [hsubtotal, hrole]), if_neg (by simp), if_pos (by simp), hfigures]
      | amount =>
          have hboundary : posting.isBoundary = false := by simp [Posting.isBoundary, hrole]
          have hcounts : posting.counts = !posting.isExcluded := by simp [Posting.counts, hrole]
          rw [if_neg (by simp [hboundary]), hcounts] at hfigures
          refine ⟨figures, ?_, hare.cons_other (by simp [hsubtotal, hrole])⟩
          rw [if_neg (by simp [hsubtotal, hrole]), if_neg (by simp)]
          cases hexcluded : posting.isExcluded with
          | true =>
              rw [if_neg (by simp [hexcluded])] at hfigures
              rw [if_pos (by simp), hfigures]
          | false =>
              rw [if_pos (by simp [hexcluded])] at hfigures
              rw [if_neg (by simp), signed?_of_records hfirst hcells, ← hfigures]
              rfl

end

/-! ## Lines -/

namespace AreLabelled

variable {postings : List Posting}

theorem append (h : AreLabelled postings) {more : List Posting} (hmore : AreLabelled more) :
    AreLabelled (postings ++ more) := by
  intro posting hmem
  rcases List.mem_append.mp hmem with hmem | hmem
  · exact h posting hmem
  · exact hmore posting hmem

theorem changeLast (h : AreLabelled postings) {amend : Posting → Posting}
    (hrole : ∀ posting, (amend posting).role = posting.role)
    (hname : ∀ posting, (amend posting).name = posting.name) :
    AreLabelled (Source.changeLast amend postings) := by
  intro posting hmem hsubtotal
  rcases mem_changeLast hmem with hmem | ⟨last, hlast, rfl⟩
  · exact h posting hmem hsubtotal
  · rw [Posting.isSubtotal, hrole] at hsubtotal
    rw [hname]
    exact h last hlast hsubtotal

/-- A line for a subtotal gives it its label. -/
theorem post (h : AreLabelled postings) {line : Line}
    (hline : line.kind.isSubtotal = true → line.value ≠ []) :
    AreLabelled (Source.post postings line) := by
  have hadds : ∀ {posting : Posting}, (posting.isSubtotal = true → posting.name ≠ []) →
      AreLabelled (postings ++ [posting]) := by
    intro posting hlabel
    refine h.append fun other hother => ?_
    obtain rfl := List.mem_singleton.mp hother
    exact hlabel
  obtain ⟨kind, value⟩ := line
  cases kind with
  | option | rowHeader | rowSeparator => exact hadds nofun
  | subtotal | rowSubtotal => exact hadds fun _ => hline rfl
  | range first last =>
      refine h.append fun posting hmem => ?_
      obtain ⟨n, _, rfl⟩ := List.mem_map.mp hmem
      nofun
  | modifier change =>
      cases change with
      | subtract | exclude | custom => exact h.changeLast (fun _ => rfl) fun _ => rfl
      | _ => exact h
  | _ => exact h

theorem ledger {lines : List Line}
    (hlines : ∀ line ∈ lines, line.kind.isSubtotal = true → line.value ≠ []) :
    AreLabelled (Source.ledger lines) := by
  have hrun : ∀ postings, AreLabelled postings → AreLabelled (lines.foldl Source.post postings) := by
    induction lines with
    | nil => exact fun _ h => h
    | cons line rest ih =>
        intro postings h
        exact ih (fun other hother => hlines other (List.mem_cons_of_mem _ hother)) _
          (h.post (hlines line List.mem_cons_self))
  exact hrun [] nofun

end AreLabelled

/-- **The arithmetic of a breakdown counts each row as its lines say**: where every
line for a subtotal has a label, the total adds up the signed cells of the amounts
that are not excluded, each once and in order, and there is one figure for every
subtotal, in order, which without a formula adds up those amounts alone that stand
behind the last heading or subtotal before it. -/
theorem figures_of_compile {source name : Text} {isChecked : Bool} {survey : Survey}
    (h : (compile source name isChecked).result = .ok survey) {question : Question}
    (hmem : question ∈ survey.questions) (hkind : question.kind = .breakdown)
    (hlabels : ∀ line ∈ (steps 0 {} (sourceLines source)).filterMap (Step.lineIn? question.id),
      line.kind.isSubtotal = true → line.value ≠ [])
    {cells : Scope} (hcells : ∀ binding ∈ cells, binding.2.IsCell) (known : Scope) :
    let rows := ledger ((steps 0 {} (sourceLines source)).filterMap (Step.lineIn? question.id))
    total? question.options cells = some (sumFrom cells 0 rows) ∧
      ∃ figures, subtotals? question.options cells known = some figures ∧
        AreFigures cells (rowScope question.options cells known) [] rows figures := by
  have hrecords := records_of_compile h hmem hkind
  have hlabelled := AreLabelled.ledger hlabels
  exact ⟨addRows?_of_records hcells hrecords hlabelled 0,
    subtotalsFrom?_of_records hcells hrecords hlabelled _ []⟩

/-- A breakdown with a row that is excluded and one that is subtracted. -/
def costSource : Text :=
  "Q: Costs\nBREAKDOWN\n- Rent\n- Food\n  - EXCLUDE\n- Refund\n  - SUBTRACT\nSUBTOTAL: All".toList

/-- The survey of `costSource`. -/
def costSurvey : Survey := (compile costSource [] true).result.toOption.getD { name := [] }

/-- The first question of `costSurvey`. -/
def costQuestion : Question := costSurvey.questions.headD default

/-- Cells for the rows of `costQuestion`. -/
def costCells : Scope :=
  [("Rent".toList, .text "700".toList), ("Food".toList, .float 250), ("Refund".toList, .float 40)]

theorem figures_of_compile_costs :
    let rows : List Posting := [{ role := .amount, name := "Rent".toList },
      { role := .amount, name := "Food".toList, isExcluded := true },
      { role := .amount, name := "Refund".toList, isSubtracted := true },
      { role := .subtotal, name := "All".toList }]
    total? costQuestion.options costCells = some (sumFrom costCells 0 rows) ∧
      ∃ figures, subtotals? costQuestion.options costCells [] = some figures ∧
        AreFigures costCells (rowScope costQuestion.options costCells []) [] rows figures := by
  have hledger : ledger ((steps 0 {} (sourceLines costSource)).filterMap
      (Step.lineIn? costQuestion.id)) = [{ role := .amount, name := "Rent".toList },
        { role := .amount, name := "Food".toList, isExcluded := true },
        { role := .amount, name := "Refund".toList, isSubtracted := true },
        { role := .subtotal, name := "All".toList }] := by decide +kernel
  have hfigures := figures_of_compile
    (show (compile costSource [] true).result = .ok costSurvey by rfl)
    (show costQuestion ∈ costSurvey.questions by decide +kernel) (by decide +kernel)
    (by decide +kernel) (show ∀ binding ∈ costCells, binding.2.IsCell by
      simp [costCells, Value.IsCell]) []
  rwa [hledger] at hfigures

end Breakdown
end Questionnaire
