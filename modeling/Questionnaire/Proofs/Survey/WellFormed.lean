import Questionnaire.Proofs.Source.Fitting
import Questionnaire.Proofs.Source.Opaque
import Questionnaire.Proofs.Source.Signals

/-!
# Questions are well formed

Every question of a survey has the kind that the lines behind its marker call for, and
it has what questions of that kind can have (`wellFormed_of_compile`): its kind is the
one it was opened with (`Asked.read`), and nothing that does not fit was added to it.
The total column of a breakdown is the greatest column of its rows, since columns are
positive (`highestColumn_eq_some_iff`).
-/

namespace Questionnaire

open Text Decimal Source

/-! ## The highest column -/

section

variable {options : List Choice}
  (hpositive : ∀ choice ∈ options, ∀ column, choice.column = some column → 0 < column)
include hpositive

/-- No column is passed over, as none is zero. -/
private theorem mem_columns {column : Int} :
    column ∈ options.filterMap (fun choice => choice.column.filter (· ≠ 0)) ↔
      ∃ choice ∈ options, choice.column = some column := by
  rw [List.mem_filterMap]
  refine exists_congr fun choice => and_congr_right fun hmem => ?_
  rw [Option.filter_eq_some_iff]
  refine ⟨And.left, fun hcolumn => ⟨hcolumn, ?_⟩⟩
  have := hpositive choice hmem column hcolumn
  simp only [decide_eq_true_eq]
  omega

theorem highestColumn_eq_none_iff :
    highestColumn options = none ↔ ∀ choice ∈ options, choice.column = none := by
  rw [highestColumn, List.max?_eq_none_iff, List.eq_nil_iff_forall_not_mem]
  refine ⟨fun h choice hmem => Option.eq_none_iff_forall_ne_some.mpr fun column hcolumn => ?_,
    fun h column hcolumn => ?_⟩
  · exact h column ((mem_columns hpositive).mpr ⟨choice, hmem, hcolumn⟩)
  · obtain ⟨choice, hmem, hsome⟩ := (mem_columns hpositive).mp hcolumn
    rw [h choice hmem] at hsome
    cases hsome

theorem highestColumn_eq_some_iff {column : Int} : highestColumn options = some column ↔
    (∃ choice ∈ options, choice.column = some column) ∧
      ∀ choice ∈ options, ∀ other, choice.column = some other → other ≤ column := by
  rw [highestColumn, List.max?_eq_some_iff, mem_columns hpositive]
  refine and_congr_right fun _ => ⟨fun h choice hmem other hother => ?_, fun h other hother => ?_⟩
  · exact h other ((mem_columns hpositive).mpr ⟨choice, hmem, hother⟩)
  · obtain ⟨choice, hmem, hsome⟩ := (mem_columns hpositive).mp hother
    exact h choice hmem other hsome

end

/-! ## Forms -/

namespace Body

/-- The total column of a breakdown, if it has one. -/
def totalColumn? : Body → Option Int
  | .breakdown _ _ _ _ column => column
  | _ => none

/-- What questions of a kind are made of. -/
inductive HasForm : QuestionKind → Body → Prop where
  /-- A choice of one option. -/
  | multipleChoice (options : List Choice) : HasForm .multipleChoice (.choice false options)
  /-- A choice of any number of options. -/
  | checkbox (options : List Choice) : HasForm .checkbox (.choice true options)
  /-- A short text. -/
  | text : HasForm .text (.text false)
  /-- An essay. -/
  | essay : HasForm .essay (.text true)
  /-- A number with its units. -/
  | number (before after : Option Text) : HasForm .number (.number before after)
  /-- Rows that share their options. -/
  | matrix (rows : List Row) (options : List Choice) (input : Option Text) :
      HasForm .matrix (.matrix rows options input)
  /-- Amounts that add up to a total. -/
  | breakdown (options : List Choice) (before after label : Option Text) (column : Option Int) :
      HasForm .breakdown (.breakdown options before after label column)

theorem hasForm_kind (body : Body) : HasForm body.kind body := by
  cases body with
  | choice many options => cases many <;> constructor
  | text long => cases long <;> constructor
  | _ => constructor

namespace HasForm

variable {kind : QuestionKind} {body : Body}

theorem kind_eq (h : HasForm kind body) : body.kind = kind := by
  cases h <;> rfl

theorem options_eq_nil (h : HasForm kind body)
    (hkind : kind = .text ∨ kind = .essay ∨ kind = .number) : body.options = [] := by
  cases h <;> first | rfl | simp at hkind

theorem rows_eq_nil (h : HasForm kind body) (hkind : kind ≠ .matrix) : body.rows = [] := by
  cases h <;> first | rfl | exact absurd rfl hkind

theorem kind_of_input? (h : HasForm kind body) {input : Text} (hinput : body.input? = some input) :
    kind = .matrix := by
  cases h <;> first | rfl | cases hinput

theorem kind_of_totalColumn? (h : HasForm kind body) {column : Int}
    (hcolumn : body.totalColumn? = some column) : kind = .breakdown := by
  cases h <;> first | rfl | cases hcolumn

/-- A settled breakdown has the highest column of its rows. -/
theorem totalColumn?_eq (h : HasForm kind body) (hkind : kind = .breakdown)
    (hsettled : body.settled = body) : body.totalColumn? = highestColumn body.options := by
  rw [← hsettled]
  cases h <;> first | rfl | cases hkind

end HasForm

end Body

/-! ## Well-formed questions -/

/-- **A question is well formed for a kind.** -/
structure Question.WellFormed (kind : QuestionKind) (question : Question) : Prop where
  /-- It is made of what questions of the kind are made of. -/
  form : question.body.HasForm kind
  /-- Texts, essays and numbers have no options. -/
  optionless : kind = .text ∨ kind = .essay ∨ kind = .number → question.options = []
  /-- Of all options only the rows of a breakdown have what those can have. -/
  plain : kind ≠ .breakdown → ∀ choice ∈ question.options, choice.IsPlain
  /-- Only a matrix has rows. -/
  rowless : kind ≠ .matrix → question.rows = []
  /-- Only a matrix has an input, which is one of three. -/
  input : ∀ input, question.body.input? = some input →
    kind = .matrix ∧ input ∈ ["checkbox".toList, "text".toList, "essay".toList]
  /-- Columns are positive. -/
  columns : ∀ choice ∈ question.options, ∀ column, choice.column = some column → 0 < column
  /-- A breakdown has no total column exactly if none of its rows stands in a column. -/
  uncolumned : kind = .breakdown →
    (question.body.totalColumn? = none ↔ ∀ choice ∈ question.options, choice.column = none)
  /-- The total column is the greatest column of the rows. -/
  greatest : ∀ column, question.body.totalColumn? = some column →
    (∃ choice ∈ question.options, choice.column = some column) ∧
      ∀ choice ∈ question.options, ∀ other, choice.column = some other → other ≤ column

theorem Source.InputWord.mem_of_matrixInput? {word : InputWord} {input : Text}
    (h : word.matrixInput? = some input) :
    input ∈ ["checkbox".toList, "text".toList, "essay".toList] := by
  cases word <;> cases h <;> simp

theorem Question.WellFormed.of_fits {kind : QuestionKind} {question : Question}
    (hform : question.body.HasForm kind) (hfits : question.body.Fits)
    (hsettled : question.body.settled = question.body) : question.WellFormed kind where
  form := hform
  optionless := hform.options_eq_nil
  plain := fun hkind choice hmem => (hfits.options choice hmem).plain (hform.kind_eq ▸ hkind)
  rowless := hform.rows_eq_nil
  input := fun input hinput => by
    obtain ⟨word, hword⟩ := hfits.input input hinput
    exact ⟨hform.kind_of_input? hinput, word.mem_of_matrixInput? hword⟩
  columns := fun choice hmem => (hfits.options choice hmem).column
  uncolumned := fun hkind => by
    rw [hform.totalColumn?_eq hkind hsettled]
    exact highestColumn_eq_none_iff fun choice hmem => (hfits.options choice hmem).column
  greatest := fun column htotal => by
    have hkind := hform.kind_of_totalColumn? htotal
    rw [hform.totalColumn?_eq hkind hsettled] at htotal
    exact (highestColumn_eq_some_iff fun choice hmem =>
      (hfits.options choice hmem).column).mp htotal

namespace Source

/-! ## Kinds -/

/-- Every question is of the kind that the lines behind its marker call for. -/
def Asked (past : List Step) (held : Content) : Prop :=
  ∀ question ∈ held.questions, ∃ step ∈ past, step.IsMarker ∧
    question.id = 'Q' :: writeNat (step.before.count + 1) ∧
    question.kind = kindAhead step.behind

namespace Asked

variable {past : List Step} {held next : Content}

theorem empty : Asked [] (State.content {}) := fun _ hmem => by cases hmem

theorem append (h : Asked past held) (more : List Step) : Asked (past ++ more) held := by
  intro question hmem
  obtain ⟨step, hstep, hmarker⟩ := h question hmem
  exact ⟨step, List.mem_append_left _ hstep, hmarker⟩

/-- A question that develops keeps its identifier and its kind. -/
theorem grows (h : Asked past held) (hgrows : held.Grows next) : Asked past next := by
  intro question hmem
  have hkey := List.mem_map_of_mem (f := fun q : Question => (q.id, q.kind)) hmem
  rw [hgrows.map_key] at hkey
  obtain ⟨old, hold, hkey⟩ := List.mem_map.mp hkey
  obtain ⟨step, hstep, hmarker, hid, hkind⟩ := h old hold
  exact ⟨step, hstep, hmarker, (congrArg Prod.fst hkey).symm.trans hid,
    (congrArg Prod.snd hkey).symm.trans hkind⟩

/-- **Every line leaves the questions of the kinds that they were asked for.** -/
theorem read {step : Step} (h : Asked past step.before.content)
    (hread : step.before.read step.number step.raw step.behind = .ok step.after) :
    Asked (past ++ [step]) step.after.content := by
  rcases (State.read_takes hread).grows with
    ⟨-, hgrows, -⟩ | ⟨line, settled, hline, hkind, hgrows, hnew, -, -⟩
  · exact (h.append [step]).grows hgrows
  · intro question hmem
    rw [hnew] at hmem
    rcases List.mem_append.mp hmem with hmem | hmem
    · exact (h.append [step]).grows hgrows question hmem
    · obtain rfl := List.mem_singleton.mp hmem
      refine ⟨step, by simp, ?_, rfl, State.kind_fresh _ _ _⟩
      rw [Step.IsMarker, hline, ← hkind]
      rfl

end Asked

/-! ## Whole surveys -/

/-- **Every question of a survey is well formed** for the kind that the lines behind its
marker call for, whatever lines the source has and in whatever order. -/
theorem wellFormed_of_compile {source name : Text} {isChecked : Bool} {survey : Survey}
    (h : (compile source name isChecked).result = .ok survey) :
    ∀ question ∈ survey.questions, ∃ step ∈ steps 0 {} (sourceLines source), step.IsMarker ∧
      question.id = 'Q' :: writeNat (step.before.count + 1) ∧
      question.WellFormed (kindAhead step.behind) := by
  have hasked : Asked (steps 0 {} (sourceLines source))
      (State.readAll 0 {} (sourceLines source)).1.content :=
    readAll_history (P := fun past st => Asked past st.content) (fun _ _ => Asked.read) 0 .empty _
  have hfits : (State.readAll 0 {} (sourceLines source)).1.content.Fits :=
    State.readAll_invariant (fun _ _ _ _ _ => Content.Fits.read) 0 .empty _
  intro question hmem
  rw [questions_of_compile h] at hmem
  generalize (State.readAll 0 {} (sourceLines source)).1 = last at hasked hfits hmem
  obtain ⟨step, hstep, hmarker, hid, hkind⟩ :=
    ((hasked.grows (.unquoted _)).grows (.settle _)) question hmem
  -- At the end no question is open any more.
  have hclosed : question ∈ last.content.unquoted.settle.items.filterMap Item.question? := by
    rw [Content.questions] at hmem
    simpa [Content.settle] using hmem
  obtain ⟨hbody, hsettled⟩ := hfits.unquoted.settle.closed question hclosed
  exact ⟨step, hstep, hmarker, hid, .of_fits (hkind ▸ question.body.hasForm_kind) hbody hsettled⟩

/-- A matrix, a breakdown with columns, a checkbox and an essay, with lines that do not
go with them. -/
def mixedSource : Text := join ['\n'] (List.map String.toList [
  "Q: How is it?", "- Q: Food", "  - VARIABLE: food", "- Good", "- COLUMN: 3", "CHECKBOX",
  "Q: What do you pay?", "BREAKDOWN", "- Rent", "  - COLUMN: 2", "  - VALUE: 10", "- Q: Else?",
  "- Heating", "  - COLUMN: 1", "- SUBTOTAL: Housing",
  "Q: What do you play?", "CHECKBOX", "- Chess", "  - SUBTRACT", "- HEADER: Outside",
  "Q: Why?", "ESSAY", "- Because", "TOTAL: Sum"])

/-- The survey of `mixedSource`. -/
def mixedSurvey : Survey := (compile mixedSource [] false).result.toOption.getD { name := [] }

theorem wellFormed_mixedSurvey :
    (compile mixedSource [] false).result = .ok mixedSurvey ∧
      mixedSurvey.questions.map Question.kind = [.matrix, .breakdown, .checkbox, .essay] ∧
      mixedSurvey.questions.map (fun question => question.body.totalColumn?)
        = [none, some 2, none, none] ∧
      ∀ question ∈ mixedSurvey.questions, ∃ step ∈ steps 0 {} (sourceLines mixedSource),
        step.IsMarker ∧ question.id = 'Q' :: writeNat (step.before.count + 1) ∧
          question.WellFormed (kindAhead step.behind) := by
  have hcompile : (compile mixedSource [] false).result = .ok mixedSurvey := by rfl
  exact ⟨hcompile, by decide +kernel, by decide +kernel, wellFormed_of_compile hcompile⟩

end Source
end Questionnaire
