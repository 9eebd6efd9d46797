import Questionnaire.Proofs.Condition.Leaves

/-!
# Disjunctions of conjunctions

Leaves joined by AND, and the rows of them joined by OR, with any mixture of words
and marks and any blanks, as a tree (`Disjunction`). The text of such a tree holds
as the tree is read: if in one of its rows all leaves hold (`evaluate_disjunction`).
-/

namespace Questionnaire.Condition

open Text

/-! ## Joints and series -/

/-- A connective as it is written between two conditions, with the blanks around it: a word has
at least one on either side. -/
structure Joint where
  before : Text
  spelling : Spelling
  after : Text
  isBlank_before : isBlankText before = true
  isBlank_after : isBlankText after = true
  spaced : spelling = .word → before ≠ [] ∧ after ≠ []

/-- Items with joints between them, one item at least. -/
inductive Series (α : Type) where
  | last (item : α)
  | cons (item : α) (joint : Joint) (rest : Series α)

namespace Series

variable {α : Type}

def items : Series α → List α
  | last item => [item]
  | cons item _ rest => item :: rest.items

/-- The series as it is written, joined by the connective. -/
def text (k : Connective) (write : α → Text) : Series α → Text
  | last item => write item
  | cons item joint rest =>
    write item ++ joint.before ++ k.sign joint.spelling ++ (joint.after ++ rest.text k write)

/-- The items are a row, where they are conditions of which rows can be made. -/
theorem row {k : Connective} {P : Text → Prop} {write : α → Text} (series : Series α)
    (hP : ∀ item ∈ series.items, ∀ b a, isBlankText b = true → isBlankText a = true →
      P (b ++ write item ++ a))
    (hmark : ∀ item ∈ series.items, ∀ c ∈ k.mark, c ∉ write item) {b a : Text}
    (hb : isBlankText b = true) (ha : isBlankText a = true) :
    Row k P (series.items.map fun item => evaluate (write item))
      (b ++ series.text k write ++ a) := by
  induction series generalizing b with
  | last item =>
      have hitem := hP item (by simp [items]) b a hb ha
      have hrow := Row.last (k := k) (P := P) hitem
      rw [evaluate_padded hb ha] at hrow
      exact hrow
  | cons item joint rest ih =>
      have hrest := ih (fun item hmem => hP item (List.mem_cons_of_mem _ hmem))
        (fun item hmem => hmark item (List.mem_cons_of_mem _ hmem)) joint.isBlank_after
      have hitem := hP item List.mem_cons_self b joint.before hb joint.isBlank_before
      have hmeets : k.Meets joint.spelling (b ++ write item ++ joint.before)
          (joint.after ++ rest.text k write ++ a) := by
        cases hspelling : joint.spelling with
        | word =>
            obtain ⟨hbefore, hafter⟩ := joint.spaced hspelling
            refine ⟨?_, ?_⟩
            · rw [getLast?_append_of_ne_nil _ hbefore]
              exact getLast?_of_isBlankText hbefore joint.isBlank_before
            · rw [List.append_assoc, head?_append_of_ne_nil hafter]
              exact head?_of_isBlankText hafter joint.isBlank_after
        | mark =>
            -- The last character of the item and the blanks is none of the mark.
            intro hlast
            obtain ⟨d, hd, hdblank, -⟩ := k.mark_eq
            have hmem : d ∈ b ++ write item ++ joint.before :=
              List.mem_of_getLast? (hlast.trans (by rw [hd]; rfl))
            simp only [List.mem_append, not_mem_of_isBlankText hb hdblank,
              not_mem_of_isBlankText joint.isBlank_before hdblank,
              hmark item List.mem_cons_self d (by simp [hd]), or_self] at hmem
      have hrow := Row.cons hitem hmeets hrest
      rw [evaluate_padded hb joint.isBlank_before] at hrow
      simpa [text, items] using hrow

theorem not_mem_text {k : Connective} {write : α → Text} {c : Char} (series : Series α)
    (hblank : isBlank c = false) (hsign : ∀ z, c ∉ k.sign z)
    (hitems : ∀ item, c ∉ write item) : c ∉ series.text k write := by
  induction series with
  | last item => exact hitems item
  | cons item joint rest ih =>
      simp only [text, List.mem_append, hitems item, hsign, ih,
        not_mem_of_isBlankText joint.isBlank_before hblank,
        not_mem_of_isBlankText joint.isBlank_after hblank, or_self, not_false_eq_true]

end Series

/-! ## Rows of leaves, and rows of them -/

/-- Leaves joined by AND to rows, which are joined by OR. -/
abbrev Disjunction := Series (Series Leaf)

def Disjunction.text (rows : Disjunction) : Text := Series.text .or (Series.text .and Leaf.text) rows

theorem row_leaves (leaves : Series Leaf) {b a : Text} (hb : isBlankText b = true)
    (ha : isBlankText a = true) : Row .and IsStable (leaves.items.map fun leaf => evaluate leaf.text)
      (b ++ leaves.text .and Leaf.text ++ a) :=
  leaves.row (fun leaf _ _ _ hb ha => leaf.isStable hb ha) (fun leaf _ _ hc => leaf.not_mem_text hc)
    hb ha

/-- Leaves joined by AND hold if all of them do. -/
theorem evaluate_leaves (leaves : Series Leaf) (scope : Scope) :
    evaluate (leaves.text .and Leaf.text) scope
      = leaves.items.all fun leaf => evaluate leaf.text scope := by
  have hrow := row_leaves leaves (b := []) (a := []) rfl rfl
  rw [List.nil_append, List.append_nil] at hrow
  rw [hrow.evaluate_eq isSteady_isStable, Connective.combine, List.all_map]
  rfl

/-- Rows joined by OR hold if one of them does. -/
theorem evaluate_rows (rows : Disjunction) (scope : Scope) : evaluate rows.text scope
    = rows.items.any fun row => evaluate (row.text .and Leaf.text) scope := by
  have hmark : ∀ row : Series Leaf, ∀ c ∈ Connective.or.mark, c ∉ row.text .and Leaf.text := by
    intro row c hc
    have hsign : ∀ z, c ∉ Connective.and.sign z := by
      obtain rfl : c = '|' := by simpa [Connective.mark] using hc
      intro z
      cases z <;> decide
    exact row.not_mem_text (Connective.isBlank_of_mem_mark hc).1 hsign
      fun leaf => leaf.not_mem_text hc
  have hsteady := Row.isSteady isSteady_isStable fun h => h.leaf.notJoins .or
  have hrow := Series.row (k := .or) (P := fun t => ∃ values, Row .and IsStable values t) rows
    (fun row _ _ _ hb ha => ⟨_, row_leaves row hb ha⟩) (fun row _ => hmark row)
    (b := []) (a := []) rfl rfl
  rw [List.nil_append, List.append_nil] at hrow
  rw [Disjunction.text, hrow.evaluate_eq hsteady, Connective.combine, List.any_map]
  rfl

/-! ## The value of a disjunction -/

/-- Two series of alike items, in any order and joined in any way. -/
def Series.Alike {α : Type} (alike : α → α → Prop) (series other : Series α) : Prop :=
  (∀ item ∈ series.items, ∃ twin ∈ other.items, alike item twin) ∧
    ∀ twin ∈ other.items, ∃ item ∈ series.items, alike item twin

theorem Series.Alike.any_eq {α : Type} {alike : α → α → Prop} {series other : Series α}
    {holds : α → Bool} (h : series.Alike alike other)
    (halike : ∀ {item twin}, alike item twin → holds item = holds twin) :
    series.items.any holds = other.items.any holds := by
  rw [Bool.eq_iff_iff, List.any_eq_true, List.any_eq_true]
  constructor
  · rintro ⟨item, hmem, hitem⟩
    obtain ⟨twin, htwin, h⟩ := h.1 item hmem
    exact ⟨twin, htwin, halike h ▸ hitem⟩
  · rintro ⟨twin, hmem, htwin⟩
    obtain ⟨item, hitem, h⟩ := h.2 twin hmem
    exact ⟨item, hitem, (halike h).trans htwin⟩

theorem Series.Alike.all_eq {α : Type} {alike : α → α → Prop} {series other : Series α}
    {holds : α → Bool} (h : series.Alike alike other)
    (halike : ∀ {item twin}, alike item twin → holds item = holds twin) :
    series.items.all holds = other.items.all holds := by
  have hany : series.items.any (fun item => !holds item)
      = other.items.any fun item => !holds item := h.any_eq fun h => by rw [halike h]
  rw [List.all_eq_not_any_not, List.all_eq_not_any_not, hany]

/-- **Disjunctions of conjunctions.** A condition that joins leaves by AND and their rows by OR
holds exactly if in one of its rows every leaf holds on its own: AND binds more tightly than OR,
words and marks say the same. Nor does it matter in which order the leaves and the rows stand, nor
whether a comparison is spelled with a symbol or a keyword operator. -/
theorem evaluate_disjunction (rows : Disjunction) (scope : Scope) :
    evaluate rows.text scope
        = (rows.items.any fun row => row.items.all fun leaf => evaluate leaf.text scope) ∧
      ∀ other : Disjunction, Series.Alike (Series.Alike Leaf.Alike) rows other →
        evaluate rows.text scope = evaluate other.text scope := by
  have hvalue : ∀ rows : Disjunction, evaluate rows.text scope
      = rows.items.any fun row => row.items.all fun leaf => evaluate leaf.text scope := by
    intro rows
    simp only [evaluate_rows, evaluate_leaves]
  refine ⟨hvalue rows, fun other h => ?_⟩
  rw [hvalue, hvalue]
  exact h.any_eq fun hrow => hrow.all_eq fun hleaf => hleaf.evaluate scope

def petLeaf : Leaf :=
  .compare "pets ".toList (.keyword ("IS".toList, .equal) (by decide)) " Dog".toList
    (by decide) (by decide) (by decide)

/-- The same comparison with the symbol. -/
def petSymbolLeaf : Leaf :=
  .compare "pets".toList (.symbol .equal) "Dog".toList (by decide) (by decide) trivial

def ageLeaf : Leaf :=
  .compare "age".toList (.symbol .atLeast) "3".toList (by decide) (by decide) trivial

def sickLeaf : Leaf :=
  .word [] "sick".toList [] (by decide) (by decide) (by decide) (by decide)

/-- A joint of the spelling with a blank on either side. -/
def spacedJoint (spelling : Spelling) : Joint :=
  ⟨" ".toList, spelling, " ".toList, by decide, by decide, fun _ => by decide⟩

/-- A comparison with a keyword operator and one with a symbol, joined by a mark, or a word. -/
def petDisjunction : Disjunction :=
  .cons (.cons petLeaf (spacedJoint .mark) (.last ageLeaf)) (spacedJoint .word)
    (.last (.last sickLeaf))

/-- The same from its end, spelled the other way. -/
def turnedPetDisjunction : Disjunction :=
  .cons (.last sickLeaf) (spacedJoint .mark)
    (.last (.cons ageLeaf (spacedJoint .word) (.last petSymbolLeaf)))

/-- Turned round and spelled otherwise, the condition on the pets holds in the same way. -/
theorem evaluate_disjunction_pets :
    evaluate "pets IS Dog && age>=3 OR sick".toList [("age".toList, .text "4".toList)]
      = evaluate "sick || age>=3 AND pets==Dog".toList [("age".toList, .text "4".toList)] := by
  have hseparated : IsSeparated "pets".toList "Dog".toList := by
    refine ⟨fun c hc relation => ?_, by decide⟩
    obtain rfl : 's' = c := Option.some.inj hc
    cases relation <;> decide
  have hpets : petLeaf.Alike petSymbolLeaf := .inr ⟨trivial, hseparated, by decide⟩
  have hrow : Series.Alike Leaf.Alike (.cons petLeaf (spacedJoint .mark) (.last ageLeaf))
      (.cons ageLeaf (spacedJoint .word) (.last petSymbolLeaf)) := by
    simp [Series.Alike, Series.items, hpets, Leaf.alike_refl]
  have hsick : Series.Alike Leaf.Alike (.last sickLeaf) (.last sickLeaf) := by
    simp [Series.Alike, Series.items, Leaf.alike_refl]
  have halike : Series.Alike (Series.Alike Leaf.Alike) petDisjunction turnedPetDisjunction := by
    constructor <;>
      simp [petDisjunction, turnedPetDisjunction, Series.items, hrow, hsick]
  have htexts : petDisjunction.text = "pets IS Dog && age>=3 OR sick".toList ∧
      turnedPetDisjunction.text = "sick || age>=3 AND pets==Dog".toList := by
    decide
  have hsame := (evaluate_disjunction petDisjunction [("age".toList, .text "4".toList)]).2 _ halike
  rwa [htexts.1, htexts.2] at hsame

end Questionnaire.Condition
