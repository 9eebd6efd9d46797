import Questionnaire.Proofs.Source.Amendments

/-!
# What a line does inside a question

A line inside a question sets an attribute of it, adds the rows that it stands
for, amends the last row, opens quotes for one of these, or is noticed and has
no other effect (`Effect`, `Affects.readInside`). A modifier is noticed only where
its row does not take what it writes.
-/

namespace Questionnaire

open Text Decimal Source

/-! ## Rows and the lines that they come from -/

/-- The option as its own line makes it, without what modifiers add. A separator
is called by its position, which is left out. -/
def Choice.bare (choice : Choice) : Choice where
  value := if isSet choice.separator then [] else choice.value
  label := choice.label
  header := choice.header
  separator := choice.separator
  subtotalLabel := choice.subtotalLabel

/-- The row as its own line makes it, without what other lines add. -/
def Row.bare (row : Row) : Row where
  id := row.id
  text := row.text

theorem Choice.bare_amend (amendment : Amendment) (choice : Choice) :
    (choice.amend amendment).bare = choice.bare := by
  cases amendment with
  | aspect aspect value => cases aspect <;> rfl
  | column column => rfl
  | entry change value => cases change <;> rfl

theorem Choice.value_amend (amendment : Amendment) (choice : Choice) :
    (choice.amend amendment).value = choice.value := by
  cases amendment with
  | aspect aspect value => cases aspect <;> rfl
  | column column => rfl
  | entry change value => cases change <;> rfl

theorem Row.bare_amend (amendment : Amendment) (row : Row) :
    (row.amend amendment).bare = row.bare := by
  cases amendment with
  | aspect aspect value => cases aspect <;> rfl
  | column column => rfl
  | entry change value => cases change <;> rfl

/-- Whether questions of the kind have options. -/
def QuestionKind.takesOptions : QuestionKind → Bool
  | .text => false
  | .essay => false
  | .number => false
  | _ => true

theorem Question.takesOptions_eq (question : Question) :
    question.body.takesOptions = question.kind.takesOptions := by
  rw [kind]
  cases question.body with
  | choice many options => cases many <;> rfl
  | text long => cases long <;> rfl
  | _ => rfl

/-- A question that differs in attributes of its own only. -/
structure Question.SameRows (old new : Question) : Prop where
  /-- The identifier. -/
  id : new.id = old.id
  /-- The text. -/
  text : new.text = old.text
  /-- The kind. -/
  kind : new.kind = old.kind
  /-- The options. -/
  options : new.options = old.options
  /-- The rows. -/
  rows : new.rows = old.rows

/-- A question with the same options and rows, though what other lines add to them
may differ. -/
structure Question.Alike (old new : Question) : Prop where
  /-- The identifier. -/
  id : new.id = old.id
  /-- The text. -/
  text : new.text = old.text
  /-- The kind. -/
  kind : new.kind = old.kind
  /-- The options as their lines make them. -/
  options : new.options.map Choice.bare = old.options.map Choice.bare
  /-- The values of the options. -/
  values : new.options.map Choice.value = old.options.map Choice.value
  /-- The rows as their lines make them. -/
  rows : new.rows.map Row.bare = old.rows.map Row.bare

/-- The kind of row that a modifier changes, which is the selected one unless the
question has no such row. -/
def Question.selected? (question : Question) (selection? : Option Selection) :
    Option Selection :=
  if selection? = some .row ∧ question.rows ≠ [] then some .row
  else if question.options ≠ [] then some .option
  else none

namespace Source

/-- Whether the line stands for rows of a question. -/
def LineKind.isRow : LineKind → Bool
  | .option => true
  | .range .. => true
  | .rowHeader => true
  | .rowSeparator => true
  | .rowSubtotal => true
  | .subtotal => true
  | .matrixRow => true
  | _ => false

/-- Whether the line is a subtotal, behind a dash or not. -/
def LineKind.isSubtotal : LineKind → Bool
  | .rowSubtotal => true
  | .subtotal => true
  | _ => false

/-- The options that a line stands for in a question of the kind. -/
def Line.choices (kind : QuestionKind) (line : Line) : List Choice :=
  match line.kind with
  | .option => if kind.takesOptions then [{ value := line.value, label := line.value }] else []
  | .range first last =>
    if kind.takesOptions then
      (numbers first last).map fun n =>
        { value := Decimal.writeInt n, label := Decimal.writeInt n }
    else []
  | .rowHeader =>
    if kind = .breakdown then
      [{ value := line.value, label := line.value, header := some true }]
    else []
  | .rowSeparator =>
    if kind = .breakdown then [{ value := [], label := [], separator := some true }] else []
  | .rowSubtotal =>
    if kind = .breakdown then
      [{ value := line.value, label := line.value, subtotalLabel := some line.value }]
    else []
  | .subtotal =>
    if kind = .breakdown then
      [{ value := line.value, label := line.value, subtotalLabel := some line.value }]
    else []
  | _ => []

/-- The ends of a range are in order, and a column has its number. -/
def LineKind.IsProper : LineKind → Prop
  | .range first last => first ≤ last
  | .modifier change => change ≠ .column
  | _ => True

/-- Whether the line is a row of the question, which must be a matrix. -/
def Line.IsRowOf (question : Question) (line : Line) : Prop :=
  line.kind = .matrixRow ∧ question.kind = .matrix

/-- Whether the line is a label for the last row of the question. -/
def Line.IsLabelOf (question : Question) (line : Line) : Prop :=
  line.kind.isSubtotal = true ∧ question.kind = .matrix ∧ question.rows ≠ []

/-- The row of a matrix that a line adds to the question. -/
def Line.row (question : Question) (line : Line) : Row where
  id := question.id ++ '_' :: Decimal.writeNat (question.rows.length + 1)
  text := line.value

/-- A modifier writes what no selected row takes. -/
def Line.IsUnfit (question : Question) (selection? : Option Selection) (line : Line) : Prop :=
  line.kind.isModifier = true → ∀ selection, question.selected? selection? = some selection →
    ∃ amendment, line.amendment? = some amendment ∧
      amendment.suits selection question.kind = false

/-! ## Lines inside a question -/

/-- **What a line does inside a question**: what becomes of the question and of
the selection, the quotes that are opened, and the cause of a warning. -/
inductive Effect (line : Line) (question : Question) (selection? : Option Selection) :
    Question → Option Selection → Option Capture → Option Cause → Prop where
  /-- Attributes of the question are set, or nothing. -/
  | sets {next : Question} (hnext : question.SameRows next) (hrow : line.kind.isRow = false)
      (hmodifier : line.kind.isModifier = false) :
      Effect line question selection? next selection? none none
  /-- Quotes are opened for an attribute of the question. -/
  | quotes {capture : Capture} (hholder : capture.holder = .question)
      (hrow : line.kind.isRow = false) (hmodifier : line.kind.isModifier = false) :
      Effect line question selection? question selection? (some capture) none
  /-- The line has no effect but a warning. -/
  | ignored (cause : Cause) (hchoices : line.choices question.kind = [])
      (hrow : ¬line.IsRowOf question) (hlabel : ¬line.IsLabelOf question)
      (hunfit : line.IsUnfit question selection?) :
      Effect line question selection? question selection? none (some cause)
  /-- Options are added, the last of which is selected. -/
  | options {added : List Choice} (hadded : added.map Choice.bare = line.choices question.kind)
      (hsome : added ≠ []) (hnamed : ∀ i choice, added[i]? = some choice →
        isSet choice.separator = true → choice.value
          = "separator-".toList ++ Decimal.writeNat (question.options.length + i)) :
      Effect line question selection?
        { question with body := question.body.mapOptions (· ++ added) } (some .option) none none
  /-- A row is added and selected. -/
  | row (hrow : line.IsRowOf question) :
      Effect line question selection?
        { question with body := question.body.mapRows (· ++ [line.row question]) } (some .row)
        none none
  /-- The last row gets a label. -/
  | labels (hlabel : line.IsLabelOf question) :
      Effect line question selection?
        { question with
          body := question.body.mapRows
            (changeLast fun row => { row with subtotalLabel := some line.value }) }
        selection? none none
  /-- The selected row is amended. -/
  | amends {selection : Selection} {amendment : Amendment}
      (hmodifier : line.kind.isModifier = true)
      (hselected : question.selected? selection? = some selection)
      (hwrites : line.amendment? = some amendment)
      (hsuits : amendment.suits selection question.kind = true) :
      Effect line question selection? (question.amend selection amendment) selection? none none
  /-- Quotes are opened for an attribute of the selected row. -/
  | amendsQuoted {selection : Selection} {capture : Capture}
      (hmodifier : line.kind.isModifier = true)
      (hselected : question.selected? selection? = some selection)
      (hholder : capture.holder = selection.holder) (haspect : line.aspect? = some capture.aspect)
      (hwrites : line.amendment? = none) :
      Effect line question selection? question selection? (some capture) none

/-- Quotes that are opened inside a question belong to it or to a row of it. -/
theorem Effect.holder_ne {line : Line} {question next : Question}
    {selection? selection?' : Option Selection} {capture : Capture} {cause? : Option Cause}
    (h : Effect line question selection? next selection?' (some capture) cause?) :
    capture.holder ≠ .page ∧ capture.holder ≠ .heading := by
  cases h with
  | quotes hholder _ _ =>
      rw [hholder]
      exact ⟨nofun, nofun⟩
  | @amendsQuoted selection _ _ _ hholder _ _ =>
      rw [hholder]
      cases selection <;> exact ⟨nofun, nofun⟩

theorem Line.choices_of_not_isRow {line : Line} (h : line.kind.isRow = false)
    (kind : QuestionKind) : line.choices kind = [] := by
  obtain ⟨lineKind, value⟩ := line
  cases lineKind <;> first | rfl | cases h

theorem Line.choices_of_isSubtotal {line : Line} (h : line.kind.isSubtotal = true)
    (kind : QuestionKind) : line.choices kind = if kind = .breakdown then
      [{ value := line.value, label := line.value, subtotalLabel := some line.value }] else [] := by
  obtain ⟨lineKind, value⟩ := line
  cases lineKind <;> first | rfl | cases h

theorem Line.not_isRowOf {line : Line} {question : Question} (h : line.kind ≠ .matrixRow) :
    ¬line.IsRowOf question := fun hrow => h hrow.1

theorem Line.not_isLabelOf {line : Line} {question : Question}
    (h : line.kind.isSubtotal = false) : ¬line.IsLabelOf question :=
  fun hlabel => Bool.false_ne_true (h.symm.trans hlabel.1)

/-- Where no option is a separator none is called by its position. -/
theorem named_of_not_separator {added : List Choice}
    (h : ∀ choice ∈ added, isSet choice.separator = false) {count : Nat} (i : Nat)
    (choice : Choice) (hchoice : added[i]? = some choice) (hset : isSet choice.separator = true) :
    choice.value = "separator-".toList ++ Decimal.writeNat (count + i) :=
  absurd hset (by rw [h choice (List.mem_of_getElem? hchoice)]; exact Bool.false_ne_true)

theorem LineKind.isRow_of_isModifier {kind : LineKind} (h : kind.isModifier = true) :
    kind.isRow = false := by
  cases kind <;> first | rfl | cases h

theorem LineKind.isRow_of_isSubtotal {kind : LineKind} (h : kind.isSubtotal = true) :
    kind.isRow = true := by
  cases kind <;> first | rfl | cases h

theorem LineKind.isRow_of_isDivider {kind : LineKind} (h : kind.isDivider = true) :
    kind.isRow = false := by
  cases kind <;> first | rfl | cases h

/-! ### Modifiers that are noticed -/

namespace Line

theorem isUnfit_of_not_isModifier (line : Line) (h : line.kind.isModifier = false)
    (question : Question) (selection? : Option Selection) : line.IsUnfit question selection? :=
  fun hmodifier => absurd (h.symm.trans hmodifier) Bool.false_ne_true

theorem isUnfit_of_isRow (line : Line) (h : line.kind.isRow = true) (question : Question)
    (selection? : Option Selection) : line.IsUnfit question selection? :=
  fun hmodifier => absurd ((LineKind.isRow_of_isModifier hmodifier).symm.trans h) Bool.false_ne_true

theorem isUnfit_of_none (line : Line) {question : Question} {selection? : Option Selection}
    (h : question.selected? selection? = none) : line.IsUnfit question selection? :=
  fun _ _ hsome => nomatch h.symm.trans hsome

theorem isUnfit_of_selected (line : Line) {question : Question} {selection? : Option Selection}
    {selection : Selection} {amendment : Amendment}
    (hselected : question.selected? selection? = some selection)
    (hwrites : line.amendment? = some amendment)
    (hsuits : amendment.suits selection question.kind = false) :
    line.IsUnfit question selection? := by
  intro _ other hother
  obtain rfl := Option.some.inj (hselected.symm.trans hother)
  exact ⟨amendment, hwrites, hsuits⟩

end Line

/-- A line that stands for no rows may be ignored, unless it is a modifier for the selected
row. -/
theorem Effect.ignored_of_not_isRow {line : Line} (h : line.kind.isRow = false)
    {question : Question} {selection? : Option Selection}
    (hunfit : line.IsUnfit question selection?) (cause : Cause) :
    Effect line question selection? question selection? none (some cause) := by
  refine .ignored cause (Line.choices_of_not_isRow h _) ?_ ?_ hunfit
  · rintro ⟨hkind, _⟩
    rw [hkind] at h
    cases h
  · rintro ⟨hsubtotal, _⟩
    rw [LineKind.isRow_of_isSubtotal hsubtotal] at h
    cases h

end Source

/-! ## Questions with the same rows -/

namespace Question

theorem SameRows.refl (question : Question) : question.SameRows question :=
  ⟨rfl, rfl, rfl, rfl, rfl⟩

theorem SameRows.put (aspect : Aspect) (value : Text) (question : Question) :
    question.SameRows (question.put aspect value) := by
  cases aspect <;> exact ⟨rfl, rfl, rfl, rfl, rfl⟩

/-- A new body of the same kind with the same options and rows. -/
theorem SameRows.withBody {question : Question} {body : Body}
    (hkind : body.kind = question.body.kind) (hoptions : body.options = question.body.options)
    (hrows : body.rows = question.body.rows) :
    question.SameRows { question with body := body } :=
  ⟨rfl, rfl, hkind, hoptions, hrows⟩

theorem SameRows.withUnit (isBefore : Bool) (value : Text) (question : Question) :
    question.SameRows { question with body := question.body.withUnit isBefore value } := by
  refine .withBody ?_ ?_ ?_ <;> cases question.body <;> cases isBefore <;> rfl

theorem SameRows.withTotal (value : Text) (question : Question) :
    question.SameRows { question with body := question.body.withTotal value } := by
  refine .withBody ?_ ?_ ?_ <;> cases question.body <;> rfl

theorem SameRows.withInput (input : Text) (question : Question) :
    question.SameRows { question with body := question.body.withInput input } := by
  refine .withBody ?_ ?_ ?_ <;> cases question.body <;> rfl

/-! ### Questions that are alike -/

theorem options_mapOptions (change : List Choice → List Choice) (question : Question)
    (h : question.kind.takesOptions = true) :
    ({ question with body := question.body.mapOptions change } : Question).options
      = change question.options := by
  rw [← takesOptions_eq] at h
  show (question.body.mapOptions change).options = change question.body.options
  cases hbody : question.body <;> rw [hbody] at h <;> first | rfl | cases h

theorem rows_mapOptions (change : List Choice → List Choice) (question : Question) :
    ({ question with body := question.body.mapOptions change } : Question).rows
      = question.rows := by
  show (question.body.mapOptions change).rows = question.body.rows
  cases question.body <;> rfl

theorem kind_mapOptions (change : List Choice → List Choice) (question : Question) :
    ({ question with body := question.body.mapOptions change } : Question).kind
      = question.kind := by
  show (question.body.mapOptions change).kind = question.body.kind
  cases question.body <;> rfl

theorem options_mapRows (change : List Row → List Row) (question : Question) :
    ({ question with body := question.body.mapRows change } : Question).options
      = question.options := by
  show (question.body.mapRows change).options = question.body.options
  cases question.body <;> rfl

theorem rows_mapRows (change : List Row → List Row) (question : Question)
    (h : question.kind = .matrix) :
    ({ question with body := question.body.mapRows change } : Question).rows
      = change question.rows := by
  show (question.body.mapRows change).rows = change question.body.rows
  have hkind : question.body.kind = .matrix := h
  cases hbody : question.body with
  | choice many options => cases many <;> simp [hbody, Body.kind] at hkind
  | text long => cases long <;> simp [hbody, Body.kind] at hkind
  | matrix rows options input => rfl
  | _ => simp [hbody, Body.kind] at hkind

theorem kind_mapRows (change : List Row → List Row) (question : Question) :
    ({ question with body := question.body.mapRows change } : Question).kind
      = question.kind := by
  show (question.body.mapRows change).kind = question.body.kind
  cases question.body <;> rfl

theorem Alike.refl (question : Question) : question.Alike question :=
  ⟨rfl, rfl, rfl, rfl, rfl, rfl⟩

theorem SameRows.alike {old new : Question} (h : old.SameRows new) : old.Alike new :=
  ⟨h.id, h.text, h.kind, by rw [h.options], by rw [h.options], by rw [h.rows]⟩

theorem Alike.changeOption {change : Choice → Choice}
    (h : ∀ choice, (change choice).bare = choice.bare)
    (hvalue : ∀ choice, (change choice).value = choice.value) (question : Question) :
    question.Alike { question with body := question.body.mapOptions (changeLast change) } where
  id := rfl
  text := rfl
  kind := kind_mapOptions _ question
  options := by
    show (question.body.mapOptions (changeLast change)).options.map Choice.bare
      = question.body.options.map Choice.bare
    cases question.body <;> first | rfl | exact map_changeLast h _
  values := by
    show (question.body.mapOptions (changeLast change)).options.map Choice.value
      = question.body.options.map Choice.value
    cases question.body <;> first | rfl | exact map_changeLast hvalue _
  rows := by rw [rows_mapOptions]

theorem Alike.changeRow {change : Row → Row} (h : ∀ row, (change row).bare = row.bare)
    (question : Question) :
    question.Alike { question with body := question.body.mapRows (changeLast change) } where
  id := rfl
  text := rfl
  kind := kind_mapRows _ question
  options := by rw [options_mapRows]
  values := by rw [options_mapRows]
  rows := by
    show (question.body.mapRows (changeLast change)).rows.map Row.bare
      = question.body.rows.map Row.bare
    cases question.body <;> first | rfl | exact map_changeLast h _

/-- A label for the last row. -/
theorem Alike.labels (label : Text) (question : Question) :
    question.Alike { question with
      body := question.body.mapRows
        (changeLast fun row => { row with subtotalLabel := some label }) } := by
  refine .changeRow ?_ question
  exact fun _ => rfl

/-- What is written to a row leaves the options and the rows what they are. -/
theorem Alike.amend (selection : Selection) (amendment : Amendment) (question : Question) :
    question.Alike (question.amend selection amendment) := by
  cases selection with
  | option =>
      exact .changeOption (Choice.bare_amend amendment) (Choice.value_amend amendment) question
  | row => exact .changeRow (Row.bare_amend amendment) question

/-- An attribute that is written does, too. -/
theorem Alike.putAt (holder : Holder) (aspect : Aspect) (value : Text) (question : Question) :
    question.Alike (question.putAt holder aspect value) := by
  cases holder with
  | question => exact (SameRows.put aspect value question).alike
  | option => exact .amend .option (.aspect aspect value) question
  | row => exact .amend .row (.aspect aspect value) question
  | _ => exact .refl question

/-! ### The selected row -/

theorem selected?_row {question : Question} {selection? : Option Selection} {row : Row}
    (h : (if selection? = some .row then question.rows.getLast? else none) = some row) :
    question.selected? selection? = some .row := by
  split at h
  · rename_i hselection
    have hrows : question.rows ≠ [] := by
      rintro hnil
      rw [hnil] at h
      cases h
    rw [selected?, if_pos ⟨hselection, hrows⟩]
  · cases h

theorem selected?_of_no_row {question : Question} {selection? : Option Selection}
    (h : (if selection? = some .row then question.rows.getLast? else none) = none) :
    question.selected? selection? = if question.options ≠ [] then some .option else none := by
  refine if_neg ?_
  rintro ⟨hselection, hrows⟩
  rw [if_pos hselection] at h
  exact hrows (List.getLast?_eq_none_iff.mp h)

theorem selected?_option {question : Question} {selection? : Option Selection}
    (h : (if selection? = some .row then question.rows.getLast? else none) = none)
    (hoptions : question.options ≠ []) : question.selected? selection? = some .option := by
  rw [selected?_of_no_row h, if_pos hoptions]

theorem selected?_none {question : Question} {selection? : Option Selection}
    (h : (if selection? = some .row then question.rows.getLast? else none) = none)
    (hoptions : question.options = []) : question.selected? selection? = none := by
  rw [selected?_of_no_row h, if_neg (not_not_intro hoptions)]

end Question

namespace Source

/-- Whatever a line does inside a question, the identifier, the text and the kind
stay. -/
theorem Effect.stays {line : Line} {question next : Question}
    {selection? selection?' : Option Selection} {capture? : Option Capture} {cause? : Option Cause}
    (h : Effect line question selection? next selection?' capture? cause?) :
    next.id = question.id ∧ next.text = question.text ∧ next.kind = question.kind := by
  cases h with
  | sets hnext _ _ => exact ⟨hnext.id, hnext.text, hnext.kind⟩
  | quotes _ _ _ => exact ⟨rfl, rfl, rfl⟩
  | ignored _ _ _ _ _ => exact ⟨rfl, rfl, rfl⟩
  | options _ _ _ => exact ⟨rfl, rfl, Question.kind_mapOptions _ question⟩
  | row _ => exact ⟨rfl, rfl, Question.kind_mapRows _ question⟩
  | labels _ => exact ⟨rfl, rfl, Question.kind_mapRows _ question⟩
  | @amends selection amendment _ _ _ _ =>
      have halike := Question.Alike.amend selection amendment question
      exact ⟨halike.id, halike.text, halike.kind⟩
  | amendsQuoted _ _ _ _ _ => exact ⟨rfl, rfl, rfl⟩

/-- A line inside a question makes options, or a row, or leaves the rows what they
are. -/
theorem Effect.alike_or_makes {line : Line} {question next : Question}
    {selection? selection?' : Option Selection} {capture? : Option Capture} {cause? : Option Cause}
    (h : Effect line question selection? next selection?' capture? cause?) :
    (question.Alike next ∧ selection?' = selection?) ∨
      (∃ added, added.map Choice.bare = line.choices question.kind ∧ added ≠ [] ∧
        next = { question with body := question.body.mapOptions (· ++ added) } ∧
        selection?' = some .option ∧ capture? = none) ∨
      (line.IsRowOf question ∧
        next = { question with body := question.body.mapRows (· ++ [line.row question]) } ∧
        selection?' = some .row ∧ capture? = none) := by
  cases h with
  | sets hnext _ _ => exact .inl ⟨hnext.alike, rfl⟩
  | quotes _ _ _ => exact .inl ⟨.refl question, rfl⟩
  | ignored _ _ _ _ _ => exact .inl ⟨.refl question, rfl⟩
  | options hadded hsome _ => exact .inr (.inl ⟨_, hadded, hsome, rfl, rfl, rfl⟩)
  | row hrow => exact .inr (.inr ⟨hrow, rfl, rfl, rfl⟩)
  | labels _ => exact .inl ⟨.labels line.value question, rfl⟩
  | amends _ _ _ _ => exact .inl ⟨.amend _ _ question, rfl⟩
  | amendsQuoted _ _ _ _ _ => exact .inl ⟨.refl question, rfl⟩

namespace State

/-- The state with what a line inside a question does to it. -/
def affected (number : Nat) (next : Question) (selection? : Option Selection)
    (capture? : Option Capture) (cause? : Option Cause) (st : State) : State :=
  { st with
    question? := some next, selection?, capture?
    warnings := st.warnings ++ (cause?.map fun cause => ⟨number, cause⟩).toList }

/-- The second state is the first one with an effect of the line on the open
question. -/
def Affects (number : Nat) (line : Line) (question : Question) (st st' : State) : Prop :=
  ∃ next selection? capture? cause?,
    Effect line question st.selection? next selection? capture? cause? ∧
      st' = st.affected number next selection? capture? cause?

namespace Affects

variable {number : Nat} {line : Line} {question : Question} {st : State}

section

variable (hquestion : st.question? = some question) (hcapture : st.capture? = none)
include hquestion hcapture

theorem warn {cause : Cause}
    (h : Effect line question st.selection? question st.selection? none (some cause)) :
    Affects number line question st (st.warn number cause) :=
  ⟨_, _, _, _, h, by simp [State.warn, affected, hquestion, hcapture]⟩

theorem mapQuestion {change : Question → Question}
    (h : Effect line question st.selection? (change question) st.selection? none none) :
    Affects number line question st (st.mapQuestion change) :=
  ⟨_, _, _, _, h, by simp [State.mapQuestion, affected, hquestion, hcapture]⟩

theorem addOptions {added : List Choice}
    (h : Effect line question st.selection?
      { question with body := question.body.mapOptions (· ++ added) } (some .option) none none) :
    Affects number line question st (st.addOptions added) :=
  ⟨_, _, _, _, h, by
    simp [State.addOptions, State.mapBody, State.mapQuestion, affected, hquestion, hcapture]⟩

omit hcapture in
theorem openQuotes {capture : Capture}
    (h : Effect line question st.selection? question st.selection? (some capture) none) :
    Affects number line question st { st with capture? := some capture } :=
  ⟨_, _, _, _, h, by simp [affected, hquestion]⟩

theorem sets_self (hrow : line.kind.isRow = false) (hmodifier : line.kind.isModifier = false) :
    Affects number line question st st :=
  ⟨_, _, _, _, .sets (.refl question) hrow hmodifier, by simp [affected, ← hquestion, ← hcapture]⟩

theorem ignored (hrow : line.kind.isRow = false) (hunfit : line.IsUnfit question st.selection?)
    (cause : Cause) : Affects number line question st (st.warn number cause) :=
  warn hquestion hcapture (Effect.ignored_of_not_isRow hrow hunfit cause)

/-! ### Attributes of the question -/

theorem assign (hrow : line.kind.isRow = false) (hmodifier : line.kind.isModifier = false)
    (aspect : Aspect) (at' : Nat) (value : Text) :
    Affects number line question st (st.assign .question aspect at' value) := by
  rcases assign_cases .question aspect at' value st with ⟨text, h⟩ | ⟨capture, hholder, h⟩
  · rw [h, write_question]
    exact mapQuestion hquestion hcapture (.sets (.put aspect text question) hrow hmodifier)
  · rw [h]
    exact openQuotes hquestion (.quotes hholder hrow hmodifier)

theorem readUnit (isBefore : Bool) (value : Text) (hrow : line.kind.isRow = false)
    (hmodifier : line.kind.isModifier = false) :
    Affects number line question st (st.readUnit isBefore number value question) := by
  rw [readUnit_eq _ _ _ hquestion]
  split
  · exact mapQuestion hquestion hcapture (.sets (.withUnit isBefore value question) hrow hmodifier)
  · exact ignored hquestion hcapture hrow (line.isUnfit_of_not_isModifier hmodifier _ _) _

theorem readTotal (value : Text) (hrow : line.kind.isRow = false)
    (hmodifier : line.kind.isModifier = false) :
    Affects number line question st (st.readTotal number value question) := by
  rw [readTotal_eq _ _ hquestion]
  split
  · exact mapQuestion hquestion hcapture (.sets (.withTotal value question) hrow hmodifier)
  · exact ignored hquestion hcapture hrow (line.isUnfit_of_not_isModifier hmodifier _ _) _

theorem readInput (word : InputWord) (hrow : line.kind.isRow = false)
    (hmodifier : line.kind.isModifier = false) :
    Affects number line question st (st.readInput word number question) := by
  rw [readInput_eq _ _ hquestion]
  split
  · exact sets_self hquestion hcapture hrow hmodifier
  · split
    · rename_i input _
      exact mapQuestion hquestion hcapture (.sets (.withInput input question) hrow hmodifier)
    · exact ignored hquestion hcapture hrow (line.isUnfit_of_not_isModifier hmodifier _ _) _

/-! ### Rows -/

/-- Options are added if the question takes them from the line, which is ignored
otherwise. -/
private theorem adds {p : Prop} [Decidable p] {added : List Choice} {cause : Cause}
    (hchoices : line.choices question.kind = if p then added.map Choice.bare else [])
    (hsome : added ≠ []) (hnamed : ∀ i choice, added[i]? = some choice →
      isSet choice.separator = true → choice.value
        = "separator-".toList ++ writeNat (question.options.length + i))
    (hkind : line.kind.isRow = true) (hrow : ¬line.IsRowOf question)
    (hlabel : ¬line.IsLabelOf question) :
    Affects number line question st (if p then st.addOptions added else st.warn number cause) := by
  split
  · rename_i htakes
    exact addOptions hquestion hcapture
      (.options (by rw [hchoices, if_pos htakes]) hsome hnamed)
  · rename_i htakes
    exact warn hquestion hcapture (.ignored _ (by rw [hchoices, if_neg htakes]) hrow hlabel
      (line.isUnfit_of_isRow hkind _ _))

theorem readSubtotal (hkind : line.kind.isSubtotal = true) :
    Affects number line question st (st.readSubtotal number line.value question) := by
  rw [readSubtotal_eq]
  split
  · rename_i hlabel
    exact mapQuestion hquestion hcapture (.labels ⟨hkind, hlabel⟩)
  · rename_i hlabel
    refine adds hquestion hcapture (Line.choices_of_isSubtotal hkind _) (by simp)
      (named_of_not_separator (by simp [isSet])) (LineKind.isRow_of_isSubtotal hkind) ?_
      fun h => hlabel h.2
    rintro ⟨hmatrix, _⟩
    rw [hmatrix] at hkind
    cases hkind

theorem readRange (first last : Int) (hkind : line.kind = .range first last)
    (hends : first ≤ last) :
    Affects number line question st (st.readRange first last number question) := by
  rw [State.readRange, question.takesOptions_eq]
  refine adds hquestion hcapture ?_ ?_ (named_of_not_separator ?_) (by rw [hkind]; rfl)
    (Line.not_isRowOf (by simp [hkind])) (Line.not_isLabelOf (by rw [hkind]; rfl))
  · rw [Line.choices, hkind, List.map_map]
    rfl
  · -- The first number is one of them.
    simp only [numbers, ne_eq, List.map_eq_nil_iff, List.range_eq_nil]
    omega
  · intro choice hchoice
    obtain ⟨n, _, rfl⟩ := List.mem_map.mp hchoice
    rfl

theorem readOption (hkind : line.kind = .option) :
    Affects number line question st (st.readOption number line.value question) := by
  rw [State.readOption, question.takesOptions_eq]
  refine adds hquestion hcapture ?_ (by simp) (named_of_not_separator (by simp [isSet]))
    (by rw [hkind]; rfl) (Line.not_isRowOf (by simp [hkind]))
    (Line.not_isLabelOf (by rw [hkind]; rfl))
  rw [Line.choices, hkind]
  rfl

theorem readMatrixRow (hkind : line.kind = .matrixRow) :
    Affects number line question st (st.readMatrixRow number line.value question) := by
  rw [readMatrixRow_eq]
  split
  · rename_i hmatrix
    exact ⟨_, _, _, _, .row ⟨hkind, hmatrix⟩, by
      simp [State.mapBody, State.mapQuestion, affected, hquestion, hcapture, Line.row]⟩
  · rename_i hmatrix
    refine warn hquestion hcapture (.ignored _ ?_ (fun h => hmatrix h.2) (fun h => hmatrix h.2.1)
      (line.isUnfit_of_isRow (by rw [hkind]; rfl) _ _))
    rw [Line.choices, hkind]

theorem readHeader (hkind : line.kind = .rowHeader) :
    Affects number line question st (st.readHeader number line.value question) := by
  rw [readHeader_eq]
  refine adds hquestion hcapture ?_ (by simp) (named_of_not_separator (by simp [isSet]))
    (by rw [hkind]; rfl) (Line.not_isRowOf (by simp [hkind]))
    (Line.not_isLabelOf (by rw [hkind]; rfl))
  rw [Line.choices, hkind]
  rfl

theorem readSeparator (hkind : line.kind = .rowSeparator) :
    Affects number line question st (st.readSeparator number question) := by
  rw [readSeparator_eq]
  refine adds hquestion hcapture ?_ (by simp) (fun i choice hchoice _ => ?_) (by rw [hkind]; rfl)
    (Line.not_isRowOf (by simp [hkind])) (Line.not_isLabelOf (by rw [hkind]; rfl))
  · rw [Line.choices, hkind]
    rfl
  · -- The separator is the only option that is added.
    cases i with
    | zero =>
        obtain rfl := Option.some.inj hchoice
        rfl
    | succ i => cases hchoice

/-! ### Modifiers -/

/-- The selected row is amended. -/
theorem amends {selection : Selection} {amendment : Amendment}
    (hmodifier : line.kind.isModifier = true)
    (hselected : question.selected? st.selection? = some selection)
    (hwrites : line.amendment? = some amendment)
    (hsuits : amendment.suits selection question.kind = true) :
    Affects number line question st (st.mapQuestion (Question.amend selection amendment)) :=
  mapQuestion hquestion hcapture (.amends hmodifier hselected hwrites hsuits)

/-- The selected row is amended if it takes what is written; else that is noticed. -/
theorem amendsOrIgnored {selection : Selection} {amendment : Amendment}
    (hmodifier : line.kind.isModifier = true)
    (hselected : question.selected? st.selection? = some selection)
    (hwrites : line.amendment? = some amendment) (cause : Cause) :
    Affects number line question st
      (if amendment.suits selection question.kind then
        st.mapQuestion (Question.amend selection amendment)
      else st.warn number cause) := by
  split
  · rename_i hsuits
    exact amends hquestion hcapture hmodifier hselected hwrites hsuits
  · rename_i hsuits
    exact ignored hquestion hcapture (LineKind.isRow_of_isModifier hmodifier)
      (line.isUnfit_of_selected hselected hwrites (Bool.eq_false_iff.mpr hsuits)) cause

/-- An attribute of the selected row is written, or quotes are opened for it. -/
theorem assignSelected {selection : Selection} {aspect : Aspect}
    (hmodifier : line.kind.isModifier = true)
    (hselected : question.selected? st.selection? = some selection)
    (haspect : line.aspect? = some aspect) :
    Affects number line question st (st.assign selection.holder aspect number line.value) := by
  have hwrites := Line.amendment?_of_aspect? haspect
  cases hinline : inlineValue? line.value with
  | some text =>
      have hwrite : st.write selection.holder aspect text
          = st.mapQuestion (Question.amend selection (.aspect aspect text)) := by
        cases selection with
        | option => exact write_option aspect text st
        | row => exact write_row aspect text st
      rw [hinline] at hwrites
      rw [assign_of_inlineValue? hinline, hwrite]
      exact amends hquestion hcapture hmodifier hselected hwrites rfl
  | none =>
      obtain ⟨lines, heq⟩ := assign_of_quotes hinline selection.holder aspect number st
      rw [hinline] at hwrites
      rw [heq]
      exact openQuotes hquestion (.amendsQuoted hmodifier hselected rfl haspect hwrites)

theorem modifyRow {change : Modifier} (hkind : line.kind = .modifier change)
    (hcolumn : change ≠ .column) (hselected : question.selected? st.selection? = some .row)
    (row : Row) :
    Affects number line question st (st.modifyRow change number line.value row) := by
  have hmodifier : line.kind.isModifier = true := by rw [hkind]; rfl
  have haspect := Line.aspect?_of_modifier hkind
  have hentry := Line.amendment?_of_entry hkind
  cases change with
  | showIf | hint | tooltip => exact assignSelected hquestion hcapture hmodifier hselected haspect
  | varName | subtract | value =>
      exact amends hquestion hcapture hmodifier hselected (hentry rfl hcolumn) rfl
  | column => exact absurd rfl hcolumn
  | _ =>
      exact ignored hquestion hcapture (LineKind.isRow_of_isModifier hmodifier)
        (line.isUnfit_of_selected hselected (hentry rfl hcolumn) rfl) _

theorem modifyOption {change : Modifier} (hkind : line.kind = .modifier change)
    (hcolumn : change ≠ .column) (hselected : question.selected? st.selection? = some .option) :
    Affects number line question st (st.modifyOption change number line.value question) := by
  have hmodifier : line.kind.isModifier = true := by rw [hkind]; rfl
  have haspect := Line.aspect?_of_modifier hkind
  have hentry := Line.amendment?_of_entry hkind
  -- Any other modifier is one for breakdowns.
  have hamount (hnone : change.aspect? = none) (htext : change ≠ .text) :
      Affects number line question st
        (if question.isBreakdown then st.mapOption (modifyAmount change line.value)
          else st.warn number (.onlyBreakdown change question.id)) := by
    have hsuits : (Amendment.entry change line.value).suits .option question.kind
        = question.isBreakdown := by simp [Amendment.suits, htext, Question.isBreakdown]
    rw [← hsuits, ← Choice.amend_entry htext]
    exact amendsOrIgnored hquestion hcapture hmodifier hselected (hentry hnone hcolumn) _
  cases change with
  | showIf | hint | tooltip => exact assignSelected hquestion hcapture hmodifier hselected haspect
  | text => exact amends hquestion hcapture hmodifier hselected (hentry rfl hcolumn) rfl
  | _ => exact hamount rfl (by decide)

theorem readModifier {change : Modifier} (hkind : line.kind = .modifier change)
    (hcolumn : change ≠ .column) :
    Affects number line question st (st.readModifier change number line.value question) := by
  rw [State.readModifier]
  split
  · rename_i row hrow
    exact modifyRow hquestion hcapture hkind hcolumn (Question.selected?_row hrow) row
  · rename_i hrow
    split
    · rename_i hoptions
      exact ignored hquestion hcapture (by rw [hkind]; rfl)
        (line.isUnfit_of_none (Question.selected?_none hrow (by simpa using hoptions))) _
    · rename_i hoptions
      exact modifyOption hquestion hcapture hkind hcolumn
        (Question.selected?_option hrow (by simpa using hoptions))

theorem readColumn {column : Nat} (hkind : line.kind = .column column) :
    Affects number line question st (st.readColumn column number question) := by
  have hmodifier : line.kind.isModifier = true := by rw [hkind]; rfl
  have hrow := LineKind.isRow_of_isModifier hmodifier
  have hwrites : line.amendment? = some (.column column) := by rw [Line.amendment?, hkind]
  rw [State.readColumn]
  split
  · rename_i row hselection
    exact ignored hquestion hcapture hrow
      (line.isUnfit_of_selected (Question.selected?_row hselection) hwrites rfl) _
  · rename_i hselection
    split
    · rename_i hoptions
      exact ignored hquestion hcapture hrow
        (line.isUnfit_of_none (Question.selected?_none hselection (by simpa using hoptions))) _
    · rename_i hoptions
      exact amendsOrIgnored hquestion hcapture hmodifier
        (Question.selected?_option hselection (by simpa using hoptions)) hwrites _

/-! ### Any line inside a question -/

/-- **What a line inside a question does to it.** -/
theorem readInside (hproper : line.kind.IsProper) :
    Affects number line question st (st.readInside number line question) := by
  obtain ⟨kind, value⟩ := line
  cases kind with
  | hint => exact assign hquestion hcapture rfl rfl .hint number value
  | varName => exact mapQuestion hquestion hcapture (.sets ⟨rfl, rfl, rfl, rfl, rfl⟩ rfl rfl)
  | input word => exact readInput hquestion hcapture word rfl rfl
  | unitBefore => exact readUnit hquestion hcapture true value rfl rfl
  | unitAfter => exact readUnit hquestion hcapture false value rfl rfl
  | total => exact readTotal hquestion hcapture value rfl rfl
  | subtotal => exact readSubtotal hquestion hcapture rfl
  | rowSubtotal => exact readSubtotal hquestion hcapture rfl
  | range first last => exact readRange hquestion hcapture first last rfl hproper
  | option => exact readOption hquestion hcapture rfl
  | matrixRow => exact readMatrixRow hquestion hcapture rfl
  | modifier change => exact readModifier hquestion hcapture rfl hproper
  | column column => exact readColumn hquestion hcapture rfl
  | rowHeader => exact readHeader hquestion hcapture rfl
  | rowSeparator => exact readSeparator hquestion hcapture rfl
  | _ => exact sets_self hquestion hcapture rfl rfl

end

end Affects
end State
end Source
end Questionnaire
