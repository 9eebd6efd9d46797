import Questionnaire.Survey.Record.Reader
import Mathlib.Data.List.Nodup

/-!
# Records read back

The readers of records undo the writers, part by part from the options up to the
survey. Every record is a map with distinct keys from which the attributes
without a value are left out, so a lookup in it is a lookup in the full list of
attributes (`lookup_kept`). Only the navigation needs something of the survey:
its positions must be positions of pages.
-/

namespace Questionnaire.Record

/-! ## Lookups in a record -/

/-- The entries of a record: those that have a value. -/
def kept (entries : List (String × Option Value)) : Fields :=
  entries.filterMap fun entry => entry.2.map (entry.1.toList, ·)

theorem fields_present (fault : Fault) (entries : List (String × Option Value)) :
    fields fault (present entries) = .ok (kept entries) := rfl

theorem exists_of_mem_kept {entries : List (String × Option Value)} {entry : Text × Value}
    (h : entry ∈ kept entries) : ∃ key, (key, some entry.2) ∈ entries ∧ key.toList = entry.1 := by
  obtain ⟨⟨key, value?⟩, hmem, hentry⟩ := List.mem_filterMap.mp h
  obtain ⟨value, rfl, rfl⟩ := Option.map_eq_some_iff.mp hentry
  exact ⟨key, hmem, rfl⟩

/-- **A lookup in a record** is a lookup in the list of its attributes. -/
theorem lookup_kept {entries : List (String × Option Value)}
    (h : (entries.map Prod.fst).Nodup) (key : String) :
    (kept entries).lookup key.toList = (entries.lookup key).join := by
  induction entries with
  | nil => rfl
  | cons entry rest ih =>
      obtain ⟨name, value?⟩ := entry
      obtain ⟨hname, hrest⟩ := List.nodup_cons.mp h
      by_cases hkey : key = name
      · subst hkey
        cases value? with
        | some value => simp [kept]
        | none =>
            have hnone : (rest.lookup key) = none := by
              refine List.lookup_eq_none_iff.mpr fun other hother => ?_
              have : key ≠ other.1 := by
                rintro rfl
                exact hname (List.mem_map.mpr ⟨other, hother, rfl⟩)
              simpa using this
            have := ih hrest
            simp only [hnone, Option.join_none] at this
            simpa [kept] using this
      · have hne : key.toList ≠ name.toList := fun heq => hkey (String.toList_inj.mp heq)
        have hb : (key == name) = false := by simpa using hkey
        rw [List.lookup_cons, hb, ← ih hrest]
        cases value? with
        | none => rfl
        | some value =>
            have : (key.toList == name.toList) = false := by simpa using hne
            simp [kept, List.lookup_cons, this]

theorem all_known {known : List String} {entries : List (String × Option Value)}
    (h : ∀ entry ∈ entries, entry.1 ∈ known) :
    ((kept entries).all fun entry => known.any fun key => key.toList = entry.1) = true := by
  refine List.all_eq_true.mpr fun entry hentry => List.any_eq_true.mpr ?_
  obtain ⟨key, hmem, hkey⟩ := exists_of_mem_kept hentry
  exact ⟨key, h _ hmem, by simpa using hkey⟩

/-! ## Attributes and lists of parts -/

/-- What an attribute is read as from what stands under its key. -/
def optional {α : Type} (read : Value → Except Fault α) : Option Value → Except Fault (Option α)
  | none => .ok none
  | some .null => .ok none
  | some value => (read value).map some

@[simp] theorem optional_written (t : Option Text) : optional text (written t) = .ok t := by
  cases t <;> rfl

@[simp] theorem optional_flag (b : Option Bool) : optional truth (flag b) = .ok b := by
  cases b <;> rfl

@[simp] theorem optional_whole (n : Option Int) : optional whole (n.map .int) = .ok n := by
  cases n <;> rfl

/-- What a list of parts is read as from what stands under its key. -/
def listed {α : Type} (read : Value → Except Fault α) (value? : Option Value) :
    Except Fault (List α) :=
  value?.elim (.ok []) fun value => (elements value).bind (readAll read)

/-- **Parts are read back one by one.** -/
theorem readAll_map {α : Type} {read : Value → Except Fault α} {record : α → Value}
    {items : List α} (h : ∀ item ∈ items, read (record item) = .ok item) :
    readAll read (items.map record) = .ok items := by
  induction items with
  | nil => rfl
  | cons item rest ih =>
      obtain ⟨hitem, hrest⟩ := List.forall_mem_cons.mp h
      rw [List.map_cons, readAll, hitem, ih hrest]
      rfl

theorem listed_parts {α : Type} {read : Value → Except Fault α} {record : α → Value}
    {items : List α} (h : ∀ item ∈ items, read (record item) = .ok item) :
    listed read (parts record items) = .ok items :=
  readAll_map h

/-! ## Readers on a record -/

section Reads

variable {α : Type} {entries : List (String × Option Value)}
  (hkeys : (entries.map Prod.fst).Nodup) (read : Value → Except Fault α) (key : String)

include hkeys

theorem attribute?_kept :
    attribute? read key (kept entries) = optional read (entries.lookup key).join := by
  rw [attribute?, lookup_kept hkeys]
  rcases (entries.lookup key).join with - | ⟨- | - | - | - | - | - | -⟩ <;> rfl

theorem required_kept :
    required key (kept entries) =
      (entries.lookup key).join.elim (.error (.missing key.toList)) .ok := by
  rw [required, lookup_kept hkeys]
  cases (entries.lookup key).join <;> rfl

theorem withDefault_kept (absent : α) :
    withDefault read key absent (kept entries) =
      (entries.lookup key).join.elim (.ok absent) read := by
  rw [withDefault, lookup_kept hkeys]

theorem readParts_kept :
    readParts read key (kept entries) = listed read (entries.lookup key).join := by
  rw [readParts, lookup_kept hkeys, listed]

theorem exactFields_present {known needed : List String}
    (hknown : ∀ entry ∈ entries, entry.1 ∈ known)
    (hneeded : ∀ key ∈ needed, (entries.lookup key).join.isSome = true) :
    exactFields known needed (present entries) = .ok (kept entries) := by
  have hall : (needed.all fun key => ((kept entries).lookup key.toList).isSome) = true :=
    List.all_eq_true.mpr fun key hkey => by rw [lookup_kept hkeys]; exact hneeded key hkey
  simp only [exactFields, fields_present, bind, Except.bind, all_known hknown, hall, Bool.and_true,
    if_true]
  rfl

end Reads

/-! ## Questions -/

theorem choice_toRecord (c : Choice) : choice c.toRecord = .ok c := by
  rw [choice, Choice.toRecord,
    exactFields_present (by simp) (by simp [choiceKeys]) (by simp [List.lookup_cons])]
  simp [attribute?_kept, required_kept, bind, Except.bind, text, pure, Except.pure, List.lookup_cons]

theorem row_toRecord (r : Row) : row r.toRecord = .ok r := by
  rw [row, Row.toRecord,
    exactFields_present (by simp) (by simp [rowKeys]) (by simp [List.lookup_cons])]
  simp [attribute?_kept, required_kept, bind, Except.bind, text, pure, Except.pure, List.lookup_cons]

@[simp] theorem listed_choices (options : List Choice) :
    listed choice (parts Choice.toRecord options) = .ok options :=
  listed_parts fun c _ => choice_toRecord c

@[simp] theorem listed_rows (rows : List Row) : listed row (parts Row.toRecord rows) = .ok rows :=
  listed_parts fun r _ => row_toRecord r

@[simp] theorem questionKind_name (kind : QuestionKind) :
    questionKind (.text kind.name) = .ok kind := by
  cases kind <;> rfl

/-- **The body of a question is read back** from a record that has other keys before its own. -/
theorem body_kept {before : List (String × Option Value)} {asked : Body}
    (hkeys : ((before ++ asked.recordEntries).map Prod.fst).Nodup)
    (hbefore : ∀ entry ∈ asked.recordEntries, before.lookup entry.1 = none) :
    body asked.kind (kept (before ++ asked.recordEntries)) = .ok asked := by
  rcases asked with ⟨- | -, options⟩ | ⟨- | -⟩ | ⟨front, back⟩ | ⟨rows, options, input⟩ |
      ⟨options, front, back, label, column⟩ <;>
    simp only [Body.recordEntries, List.forall_mem_cons] at hbefore hkeys <;>
    simp [body, Body.kind, Body.recordEntries, attribute?_kept hkeys, readParts_kept hkeys,
      List.lookup_append, hbefore, List.lookup_cons, bind, Except.bind, pure, Except.pure, Except.map]

/-- The entries that the records of all questions have. -/
def common (q : Question) : List (String × Option Value) := [
  ("kind", some (.text "question".toList)),
  ("id", some (.text q.id)),
  ("type", some (.text q.kind.name)),
  ("text", some (.text q.text)),
  ("variable", written q.varName),
  ("show_if", written q.showIf),
  ("hint", written q.hint),
  ("tooltip", written q.tooltip)]

theorem toRecord_eq_present (q : Question) :
    q.toRecord = present (common q ++ q.body.recordEntries) := rfl

theorem nodup_question (q : Question) :
    ((common q ++ q.body.recordEntries).map Prod.fst).Nodup := by
  cases q.body <;> simp [common, Body.recordEntries]

theorem lookup_common_body (q : Question) :
    ∀ entry ∈ q.body.recordEntries, (common q).lookup entry.1 = none := by
  cases q.body <;> simp [common, Body.recordEntries, List.lookup_cons]

theorem question_kept (q : Question) :
    question (kept (common q ++ q.body.recordEntries)) = .ok q := by
  have hbody : body q.kind (kept (common q ++ q.body.recordEntries)) = .ok q.body :=
    body_kept (nodup_question q) (lookup_common_body q)
  simp only [question, attribute?_kept (nodup_question q), required_kept (nodup_question q),
    withDefault_kept (nodup_question q), List.lookup_append]
  generalize kept (common q ++ q.body.recordEntries) = entries at hbody ⊢
  simp [common, hbody, text, bind, Except.bind, pure, Except.pure, List.lookup_cons]

/-! ## Containers -/

theorem item_toRecord (i : Item) : item i.toRecord = .ok i := by
  cases i with
  | text value =>
      rw [item, Item.toRecord, fields_present]
      simp only [bind, Except.bind]
      rw [lookup_kept (by simp)]
      simp [required_kept, text, List.lookup_cons, Except.map]
  | question q =>
      rw [item, Item.toRecord, toRecord_eq_present, fields_present]
      simp only [bind, Except.bind]
      rw [lookup_kept (nodup_question q), question_kept]
      rfl

@[simp] theorem listed_items (items : List Item) :
    listed item (parts Item.toRecord items) = .ok items :=
  listed_parts fun i _ => item_toRecord i

theorem heading_toRecord (s : Section) : heading s.toRecord = .ok s := by
  rw [heading, Section.toRecord, fields_present]
  simp [attribute?_kept, readParts_kept, bind, Except.bind, pure, Except.pure, List.lookup_cons]

theorem computation_toRecord (c : Computation) : computation c.toRecord = .ok c := by
  rw [computation, Computation.toRecord, fields_present]
  simp [required_kept, bind, Except.bind, pure, Except.pure, text, List.lookup_cons]

@[simp] theorem listed_headings (sections : List Section) :
    listed heading (parts Section.toRecord sections) = .ok sections :=
  listed_parts fun s _ => heading_toRecord s

@[simp] theorem listed_computations (computations : List Computation) :
    listed computation (parts Computation.toRecord computations) = .ok computations :=
  listed_parts fun c _ => computation_toRecord c

theorem page_toRecord (p : Page) : page p.toRecord = .ok p := by
  rw [page, Page.toRecord, fields_present]
  simp [attribute?_kept, withDefault_kept, readParts_kept, bind, Except.bind, pure, Except.pure,
    text, List.lookup_cons]

@[simp] theorem listed_pages (pages : List Page) :
    listed page (parts Page.toRecord pages) = .ok pages :=
  listed_parts fun p _ => page_toRecord p

theorem block_toRecord (b : Block) : block b.toRecord = .ok b := by
  rw [block, Block.toRecord, fields_present]
  simp [attribute?_kept, withDefault_kept, readParts_kept, bind, Except.bind, pure, Except.pure,
    text, List.lookup_cons]

@[simp] theorem listed_blocks (blocks : List Block) :
    listed block (parts Block.toRecord blocks) = .ok blocks :=
  listed_parts fun b _ => block_toRecord b

/-! ## Navigation and the survey -/

theorem position_ofNat {count n : Nat} (h : n < count) :
    position count (.int (Int.ofNat n)) = .ok n := by
  have hneg : ¬ ((n : Int) < 0) := by omega
  simp [position, whole, bind, Except.bind, pure, Except.pure, hneg, h]

theorem entry_toRecord {count : Nat} (e : Entry) (h : ∀ n ∈ e.pages, n < count) :
    entry count e.toRecord = .ok e := by
  have hpages : listed (position count) (parts (fun n : Nat => .int (n : Int)) e.pages) = .ok e.pages :=
    listed_parts fun n hn => position_ofNat (h n hn)
  rw [entry, Entry.toRecord, fields_present]
  simp [required_kept, withDefault_kept, readParts_kept, hpages, bind, Except.bind, pure,
    Except.pure, text, whole, List.lookup_cons]

/-- **A survey is read back from its record** if its navigation refers to pages that exist. -/
theorem survey_toRecord {s : Survey}
    (h : ∀ e ∈ s.entries, ∀ n ∈ e.pages, n < s.pages.length) : survey s.toRecord = .ok s := by
  have hentries : listed (entry s.pages.length) (parts Entry.toRecord s.entries) = .ok s.entries :=
    listed_parts fun e he => entry_toRecord e (h e he)
  have hpages : (Survey.pages { name := s.name, blocks := s.blocks }).length = s.pages.length := rfl
  rw [survey, Survey.toRecord, fields_present]
  simp [withDefault_kept, readParts_kept, hpages, hentries, bind, Except.bind, pure, Except.pure,
    text, List.lookup_cons]

end Questionnaire.Record
