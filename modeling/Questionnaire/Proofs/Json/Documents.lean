import Questionnaire.Proofs.Json.Strings
import Questionnaire.Proofs.Json.Words
import Questionnaire.Proofs.Value.Scope

/-!
# Documents read back

What the long writer makes of a value without fractions, whose maps have
distinct keys, the reader takes back to that value. A list or a map is written
as parts with a separator between them; the induction over the parts is done
once for each (`readItems_parts`, `readEntries_parts`), for parts that are read
back themselves. The reader is fuelled, and the length of the text is enough.
-/

namespace Questionnaire

open Text Decimal

theorem Scope.set_of_not_mem {scope : Scope} {key : Text} {value : Value}
    (h : key ∉ scope.map Prod.fst) : scope.set key value = scope ++ [(key, value)] := by
  induction scope with
  | nil => rfl
  | cons entry rest ih =>
      obtain ⟨other, old⟩ := entry
      simp only [List.map_cons, List.mem_cons, not_or] at h
      simp only [set, Ne.symm h.1, if_false, ih h.2, List.cons_append]

namespace Json

/-- The values that documents hold exactly. -/
inductive Storable : Value → Prop where
  | null : Storable .null
  | bool (b : Bool) : Storable (.bool b)
  | int (n : Int) : Storable (.int n)
  | text (t : Text) : Storable (.text t)
  | list {items : List Value} (h : ∀ item ∈ items, Storable item) : Storable (.list items)
  | map {entries : List (Text × Value)} (hkeys : (entries.map Prod.fst).Nodup)
      (h : ∀ entry ∈ entries, Storable entry.2) : Storable (.map entries)

/-- The values that are written as bare words, with their words. -/
inductive Word : Value → Text → Prop where
  | null : Word .null "null".toList
  | yes : Word (.bool true) "true".toList
  | no : Word (.bool false) "false".toList
  | int (n : Int) : Word (.int n) (writeInt n)

theorem Word.writeLong_eq {value : Value} {w : Text} (h : Word value w) (depth : Nat) :
    writeLong depth value = w := by
  cases h <;> rfl

theorem Word.ne_nil {value : Value} {w : Text} (h : Word value w) : w ≠ [] := by
  cases h with
  | null | yes | no => decide
  | int n =>
      rw [writeInt]
      split
      · exact List.cons_ne_nil _ _
      · exact writeNat_ne_nil _

theorem Word.isWordChar {value : Value} {w : Text} (h : Word value w) :
    ∀ c ∈ w, isWordChar c = true := by
  cases h with
  | null | yes | no => exact List.all_eq_true.mp (by decide)
  | int n =>
      intro c hc
      rcases eq_or_isDigit_of_mem_writeInt hc with rfl | hdigit
      · decide
      · exact isWordChar_of_isDigit hdigit

theorem Word.documentWord? {value : Value} {w : Text} (h : Word value w) :
    documentWord? w = some value := by
  cases h with
  | null | yes | no => rfl
  | int n => exact documentWord?_writeInt n

/-- A value is read back from its long form, whatever stands behind it. -/
def ReadsBack (value : Value) : Prop :=
  ∀ depth fuel rest, (writeLong depth value).length < fuel → Ends rest →
    readValue documentWord? fuel (writeLong depth value ++ rest) = some (value, rest)

theorem readsBack_word {value : Value} {w : Text} (h : Word value w) : ReadsBack value := by
  intro depth fuel rest hfuel hrest
  obtain ⟨fuel, rfl⟩ := Nat.exists_eq_succ_of_ne_zero (Nat.ne_zero_of_lt hfuel)
  rw [h.writeLong_eq depth]
  exact readValue_word h.isWordChar h.ne_nil h.documentWord? fuel hrest

theorem readsBack_text (t : Text) : ReadsBack (.text t) := by
  intro depth fuel rest hfuel hrest
  obtain ⟨fuel, rfl⟩ := Nat.exists_eq_succ_of_ne_zero (Nat.ne_zero_of_lt hfuel)
  rw [writeLong, string, readValue, List.append_assoc, List.cons_append,
    skipSpace_cons (by decide), List.singleton_append]
  simp only [readString_string, Option.map_some, List.reverse_nil, List.nil_append]

/-! ## Parts -/

/-- The separator between the parts of a list or a map. -/
def separator (depth : Nat) : Text := ',' :: newLine (depth + 1)

theorem join_cons_cons (separator first second : Text) (rest : List Text) :
    join separator (first :: second :: rest) =
      first ++ separator ++ join separator (second :: rest) := rfl

theorem ends_separator (depth : Nat) (t : Text) : Ends (separator depth ++ t) :=
  ends_cons (by decide) _

/-- A part behind its indentation. -/
theorem ReadsBack.behind {value : Value} (h : ReadsBack value) {depth fuel : Nat} {rest : Text}
    (hfuel : (writeLong depth value).length < fuel) (hrest : Ends rest) :
    readValue documentWord? fuel (newLine depth ++ (writeLong depth value ++ rest)) =
      some (value, rest) := by
  rw [readValue_congr (skipSpace_newLine depth _), h depth fuel rest hfuel hrest]

/-- **The items of a list are read back in order.** -/
theorem readItems_parts {items : List Value} (hback : ∀ item ∈ items, ReadsBack item)
    (hne : items ≠ []) (depth fuel : Nat)
    (hfuel : (join (separator depth) (writeLongItems depth items)).length + 1 < fuel)
    (before : List Value) (rest : Text) :
    readItems documentWord? fuel before
        (newLine (depth + 1) ++ (join (separator depth) (writeLongItems depth items) ++
          (newLine depth ++ ']' :: rest))) =
      some (.list (before.reverse ++ items), rest) := by
  induction items generalizing fuel before with
  | nil => exact absurd rfl hne
  | cons item others ih =>
      obtain ⟨hitem, hothers⟩ := List.forall_mem_cons.mp hback
      obtain ⟨fuel, rfl⟩ := Nat.exists_eq_succ_of_ne_zero (Nat.ne_zero_of_lt hfuel)
      cases others with
      | nil =>
          simp only [writeLongItems, join] at hfuel ⊢
          rw [readItems, hitem.behind (by omega) (ends_newLine depth _)]
          simp [skipSpace_newLine, skipSpace_cons (show isSpace ']' = false by decide)]
      | cons other others =>
          simp only [writeLongItems, join_cons_cons, List.append_assoc] at hfuel ⊢
          simp only [List.length_append, separator, List.length_cons] at hfuel
          rw [readItems, hitem.behind (by omega) (ends_separator depth _)]
          simp only [separator, List.cons_append,
            skipSpace_cons (show isSpace ',' = false by decide)]
          have hnext := ih hothers (List.cons_ne_nil _ _) fuel
            (by simp only [writeLongItems, separator]; omega) (item :: before)
          rw [List.reverse_cons, List.append_assoc] at hnext
          exact hnext

/-- An entry of a map as it is written. -/
def entryText (depth : Nat) (entry : Text × Value) : Text :=
  string entry.1 ++ [':', ' '] ++ writeLong (depth + 1) entry.2

theorem writeLongEntries_eq_map (depth : Nat) (entries : List (Text × Value)) :
    writeLongEntries depth entries = entries.map (entryText depth) := by
  induction entries with
  | nil => rfl
  | cons entry rest ih => rw [writeLongEntries, ih]; rfl

/-- How a map goes on behind an entry. -/
def readOn (fuel : Nat) (entries : Scope) (rest : Text) : Option (Value × Text) :=
  match skipSpace rest with
  | ',' :: rest => readEntries documentWord? fuel entries rest
  | '\x7d' :: rest => some (.map entries, rest)
  | _ => none

/-- What becomes of one entry: it is set, and the reader goes on behind it. -/
theorem readEntries_entry {entry : Text × Value} (hback : ReadsBack entry.2) {depth fuel : Nat}
    (hfuel : (entryText depth entry).length < fuel) (before : Scope) {rest : Text}
    (hrest : Ends rest) :
    readEntries documentWord? (fuel + 1) before
        (newLine (depth + 1) ++ (entryText depth entry ++ rest)) =
      readOn fuel (before.set entry.1 entry.2) rest := by
  have hspace : skipSpace (' ' :: (writeLong (depth + 1) entry.2 ++ rest)) =
      skipSpace (writeLong (depth + 1) entry.2 ++ rest) := rfl
  have hlength : (writeLong (depth + 1) entry.2).length < fuel := by
    simp only [entryText, List.length_append] at hfuel
    omega
  rw [readEntries, skipSpace_newLine, entryText, string]
  simp only [List.append_assoc, List.cons_append, skipSpace_cons (show isSpace '"' = false by decide)]
  simp only [List.nil_append, readString_string, skipSpace_cons (show isSpace ':' = false by decide),
    readValue_congr hspace, hback (depth + 1) fuel rest hlength hrest, List.reverse_nil]
  rfl

/-- **The entries of a map are read back in order** if their keys are distinct. -/
theorem readEntries_parts {entries : List (Text × Value)}
    (hback : ∀ entry ∈ entries, ReadsBack entry.2) (hne : entries ≠ []) (depth fuel : Nat)
    (hfuel : (join (separator depth) (writeLongEntries depth entries)).length + 1 < fuel)
    (before : Scope) (hkeys : ((before ++ entries).map Prod.fst).Nodup) (rest : Text) :
    readEntries documentWord? fuel before
        (newLine (depth + 1) ++ (join (separator depth) (writeLongEntries depth entries) ++
          (newLine depth ++ '\x7d' :: rest))) =
      some (.map (before ++ entries), rest) := by
  induction entries generalizing fuel before with
  | nil => exact absurd rfl hne
  | cons entry others ih =>
      obtain ⟨hentry, hothers⟩ := List.forall_mem_cons.mp hback
      obtain ⟨fuel, rfl⟩ := Nat.exists_eq_succ_of_ne_zero (Nat.ne_zero_of_lt hfuel)
      have hset : before.set entry.1 entry.2 = before ++ [entry] := by
        refine Scope.set_of_not_mem ?_
        rw [List.map_append, List.nodup_append] at hkeys
        exact fun hmem => hkeys.2.2 _ hmem _ List.mem_cons_self rfl
      rw [writeLongEntries_eq_map] at hfuel ⊢
      cases others with
      | nil =>
          simp only [List.map_cons, List.map_nil, join] at hfuel ⊢
          rw [readEntries_entry hentry (by omega) before (ends_newLine depth _), hset]
          simp [readOn, skipSpace_newLine, skipSpace_cons (show isSpace '\x7d' = false by decide)]
      | cons other others =>
          simp only [List.map_cons, join_cons_cons, List.append_assoc] at hfuel ⊢
          simp only [List.length_append, separator, List.length_cons] at hfuel
          rw [readEntries_entry hentry (by omega) before (ends_separator depth _), hset]
          simp only [readOn, separator, List.cons_append,
            skipSpace_cons (show isSpace ',' = false by decide)]
          have hnext := ih hothers (List.cons_ne_nil _ _) fuel
            (by rw [writeLongEntries_eq_map]; simp only [List.map_cons, separator]; omega)
            (before ++ [entry]) (by rwa [List.append_assoc])
          rw [writeLongEntries_eq_map, List.append_assoc] at hnext
          exact hnext

/-! ## Values -/

/-- How the long form of a value begins: with no space, and with no bracket that closes. -/
theorem begins_writeLong {value : Value} (h : Storable value) (depth : Nat) :
    ∃ c rest, writeLong depth value = c :: rest ∧ isSpace c = false ∧ c ≠ ']' := by
  have hspread : ∀ (opening closing : Char) (parts : List Text), ∃ rest,
      spread depth opening closing parts = opening :: rest := by
    intro opening closing parts
    rw [spread]
    split
    · exact ⟨_, rfl⟩
    · exact ⟨_, rfl⟩
  have hword : ∀ {w : Text}, Word value w →
      ∃ c rest, writeLong depth value = c :: rest ∧ isSpace c = false ∧ c ≠ ']' := by
    intro w hw
    obtain ⟨c, rest, rfl⟩ := List.exists_cons_of_ne_nil hw.ne_nil
    have hc := hw.isWordChar c List.mem_cons_self
    refine ⟨c, rest, hw.writeLong_eq depth, isSpace_of_isWordChar hc, ?_⟩
    rintro rfl
    revert hc
    decide
  cases h with
  | null => exact hword .null
  | bool b => cases b with
    | true => exact hword .yes
    | false => exact hword .no
  | int n => exact hword (.int n)
  | text t => exact ⟨'"', _, rfl, by decide, by decide⟩
  | list _ =>
      obtain ⟨rest, hrest⟩ := hspread '[' ']' (writeLongItems depth _)
      exact ⟨'[', rest, hrest, by decide, by decide⟩
  | map _ _ =>
      obtain ⟨rest, hrest⟩ := hspread '\x7b' '\x7d' (writeLongEntries depth _)
      exact ⟨'\x7b', rest, hrest, by decide, by decide⟩

theorem spread_append {parts : List Text} (hne : parts ≠ []) (depth : Nat) (opening closing : Char)
    (rest : Text) :
    spread depth opening closing parts ++ rest =
      opening :: (newLine (depth + 1) ++ (join (separator depth) parts ++
        (newLine depth ++ closing :: rest))) := by
  have hempty : parts.isEmpty = false := by simpa using hne
  simp [spread, separator, hempty]

theorem length_join_lt_spread {parts : List Text} (hne : parts ≠ []) (depth : Nat)
    (opening closing : Char) :
    (join (separator depth) parts).length + 2 < (spread depth opening closing parts).length := by
  have h := congrArg List.length (spread_append hne depth opening closing [])
  simp only [List.append_nil, List.length_cons, List.length_append, newLine] at h
  omega

/-- The first character of parts on lines of their own is that of the first part. -/
theorem skipSpace_parts {part begun : Text} {c : Char} (hpart : part = c :: begun)
    (hspace : isSpace c = false) (depth : Nat) (separator : Text) (parts : List Text)
    (rest : Text) :
    ∃ after, skipSpace (newLine depth ++ (join separator (part :: parts) ++ rest)) = c :: after := by
  subst hpart
  rw [skipSpace_newLine]
  cases parts with
  | nil => exact ⟨_, skipSpace_cons hspace _⟩
  | cons other others => exact ⟨_, skipSpace_cons hspace _⟩

theorem readsBack_list {items : List Value} (hstorable : ∀ item ∈ items, Storable item)
    (hback : ∀ item ∈ items, ReadsBack item) : ReadsBack (.list items) := by
  intro depth fuel rest hfuel hrest
  obtain ⟨fuel, rfl⟩ := Nat.exists_eq_succ_of_ne_zero (Nat.ne_zero_of_lt hfuel)
  cases items with
  | nil => rfl
  | cons item others =>
      have hne : writeLongItems depth (item :: others) ≠ [] := List.cons_ne_nil _ _
      have hlength := length_join_lt_spread hne depth '[' ']'
      rw [writeLong] at hfuel ⊢
      have hparts := readItems_parts hback (List.cons_ne_nil _ _) depth fuel (by omega)
        [] rest
      obtain ⟨c, begun, hbegun, hspace, hbracket⟩ :=
        begins_writeLong (hstorable item List.mem_cons_self) (depth + 1)
      obtain ⟨after, hafter⟩ := skipSpace_parts hbegun hspace (depth + 1) (separator depth)
        (writeLongItems depth others) (newLine depth ++ ']' :: rest)
      rw [spread_append hne, readValue, skipSpace_cons (by decide)]
      simp only
      split
      · rename_i hclose
        exact absurd (List.cons.inj (hafter.symm.trans hclose)).1 hbracket
      · exact hparts

theorem readsBack_map {entries : List (Text × Value)} (hkeys : (entries.map Prod.fst).Nodup)
    (hback : ∀ entry ∈ entries, ReadsBack entry.2) : ReadsBack (.map entries) := by
  intro depth fuel rest hfuel hrest
  obtain ⟨fuel, rfl⟩ := Nat.exists_eq_succ_of_ne_zero (Nat.ne_zero_of_lt hfuel)
  cases entries with
  | nil => rfl
  | cons entry others =>
      have hne : writeLongEntries depth (entry :: others) ≠ [] := List.cons_ne_nil _ _
      have hlength := length_join_lt_spread hne depth '\x7b' '\x7d'
      rw [writeLong] at hfuel ⊢
      have hparts := readEntries_parts hback (List.cons_ne_nil _ _) depth fuel (by omega)
        [] hkeys rest
      obtain ⟨after, hafter⟩ := skipSpace_parts (show entryText depth entry = '"' :: _ from rfl) (by decide)
        (depth + 1) (separator depth) (writeLongEntries depth others)
        (newLine depth ++ '\x7d' :: rest)
      rw [spread_append hne, readValue, skipSpace_cons (by decide)]
      simp only
      split
      · rename_i hclose
        have hquote := (List.cons.inj (hafter.symm.trans hclose)).1
        cases hquote
      · exact hparts

/-- **A value is read back from its long form.** -/
theorem Storable.readsBack {value : Value} (h : Storable value) : ReadsBack value := by
  induction h with
  | null => exact readsBack_word .null
  | bool b => cases b with
    | true => exact readsBack_word .yes
    | false => exact readsBack_word .no
  | int n => exact readsBack_word (.int n)
  | text t => exact readsBack_text t
  | list h ih => exact readsBack_list h ih
  | map hkeys _ ih => exact readsBack_map hkeys ih

/-- **A document is read back as the value that it was written from.** -/
theorem read?_writeLong {value : Value} (h : Storable value) :
    read? (writeLong 0 value) = some value := by
  have hvalue := h.readsBack 0 ((writeLong 0 value).length + 1) [] (Nat.lt_succ_self _)
    (fun c hc => nomatch hc)
  rw [List.append_nil] at hvalue
  rw [read?, readWith?, hvalue]
  rfl

end Json
end Questionnaire
