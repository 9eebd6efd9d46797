import Questionnaire.Proofs.Text.Alone
import Questionnaire.Proofs.Text.Visible
import Questionnaire.Template.Block

/-!
# Texts as trees

A text with placeholders and conditionals as its author means it (`Tree`), and
the text that writes it (`Tree.source`). The trees that are well formed leave no
doubt about what is a brace of whose: their plain texts have no braces, and no
word that separates the parts of a conditional stands where it would cut the
conditional too early. The blanks at the two ends of a tree can be taken off the
tree itself.
-/

namespace Questionnaire.Template

open Text

/-! ## Trees and the texts that write them -/

/-- A text as it is meant: plain text, placeholders and conditionals with one
branch or two, each with what follows it. -/
inductive Tree where
  | nil
  | text (t : Text) (rest : Tree)
  | hole (content : Text) (rest : Tree)
  | oneWay (condition : Text) (yes rest : Tree)
  | twoWay (condition : Text) (yes no rest : Tree)
deriving DecidableEq, Repr

/-- A placeholder. -/
def written (content : Text) : Text := '\x7b' :: content ++ ['\x7d']

/-- A block. -/
def block (inside : Text) : Text := '\x7b' :: '\x7b' :: inside ++ ['\x7d', '\x7d']

@[simp] theorem getLast?_written (content : Text) : (written content).getLast? = some '\x7d' := by
  rw [written, List.getLast?_append]
  rfl

@[simp] theorem getLast?_block (inside : Text) : (block inside).getLast? = some '\x7d' := by
  rw [block, List.getLast?_append]
  rfl

/-- The inside of a conditional up to its first branch. -/
def opening (condition : Text) : Text := "IF ".toList ++ condition ++ " THEN ".toList

/-- The inside of a conditional with two branches. -/
def choice (condition yes no : Text) : Text :=
  opening condition ++ yes ++ " ELSE ".toList ++ no

namespace Tree

/-- The text that writes the tree. -/
def source : Tree → Text
  | nil => []
  | text t rest => t ++ rest.source
  | hole content rest => written content ++ rest.source
  | oneWay condition yes rest => block (opening condition ++ yes.source) ++ rest.source
  | twoWay condition yes no rest => block (choice condition yes.source no.source) ++ rest.source

/-- The text that writes the tree, with nothing inside its blocks. -/
def outline : Tree → Text
  | nil => []
  | text t rest => t ++ rest.outline
  | hole content rest => written content ++ rest.outline
  | oneWay _ _ rest => block [] ++ rest.outline
  | twoWay _ _ _ rest => block [] ++ rest.outline

/-- The one tree followed by the other. -/
def append : Tree → Tree → Tree
  | nil, other => other
  | text t rest, other => text t (rest.append other)
  | hole content rest, other => hole content (rest.append other)
  | oneWay condition yes rest, other => oneWay condition yes (rest.append other)
  | twoWay condition yes no rest, other => twoWay condition yes no (rest.append other)

/-- The number of parts of the tree. -/
def size : Tree → Nat
  | nil => 0
  | text _ rest => rest.size + 1
  | hole _ rest => rest.size + 1
  | oneWay _ yes rest => yes.size + rest.size + 1
  | twoWay _ yes no rest => yes.size + no.size + rest.size + 1

@[simp] theorem source_append (tree other : Tree) :
    (tree.append other).source = tree.source ++ other.source := by
  induction tree with
  | nil => rfl
  | text _ _ ih => simp [append, source, ih]
  | hole _ _ ih => simp [append, source, ih]
  | oneWay _ _ _ _ ih => simp [append, source, ih]
  | twoWay _ _ _ _ _ _ ih => simp [append, source, ih]

@[simp] theorem size_append (tree other : Tree) :
    (tree.append other).size = tree.size + other.size := by
  induction tree with
  | nil => simp [append, size]
  | text _ _ ih => simp [append, size, ih]; omega
  | hole _ _ ih => simp [append, size, ih]; omega
  | oneWay _ _ _ _ ih => simp [append, size, ih]; omega
  | twoWay _ _ _ _ _ _ ih => simp [append, size, ih]; omega

/-! ## Well-formed trees -/

end Tree

/-- Plain text: without braces, and without backslashes, which escape them. -/
def IsPlain (t : Text) : Prop := ∀ c ∈ t, isInside c = true ∧ c ≠ '\\'

/-- The condition of a conditional: not blank, without braces, and without a
word THEN that would end it. -/
structure IsCondition (condition : Text) : Prop where
  /-- There is a condition. -/
  notBlank : isBlankText condition = false
  /-- It has no braces. -/
  inside : condition.all isInside = true
  /-- It does not end before its end. -/
  standing : ¬ StandsAlone "THEN".toList condition

instance (t : Text) : Decidable (IsPlain t) :=
  decidable_of_iff (t.all (fun c => isInside c && c ≠ '\\') = true) (by simp [IsPlain])

instance (condition : Text) : Decidable (IsCondition condition) :=
  decidable_of_iff (isBlankText condition = false ∧ condition.all isInside = true ∧
      ¬ StandsAlone "THEN".toList condition)
    ⟨fun h => ⟨h.1, h.2.1, h.2.2⟩, fun h => ⟨h.notBlank, h.inside, h.standing⟩⟩

namespace Tree

/-- Plain texts are plain, placeholders have a name without braces, conditions
are conditions, and the first branch of a conditional has no word ELSE outside
the blocks in it. -/
def IsWellFormed : Tree → Prop
  | nil => True
  | text t rest => IsPlain t ∧ rest.IsWellFormed
  | hole content rest => content ≠ [] ∧ content.all isInside = true ∧ rest.IsWellFormed
  | oneWay condition yes rest =>
    IsCondition condition ∧ yes.IsWellFormed ∧ ¬ StandsAlone "ELSE".toList yes.outline ∧
      rest.IsWellFormed
  | twoWay condition yes no rest =>
    IsCondition condition ∧ yes.IsWellFormed ∧ ¬ StandsAlone "ELSE".toList yes.outline ∧
      no.IsWellFormed ∧ rest.IsWellFormed

/-- Whether a tree is well formed can be decided part by part. -/
def decideWellFormed : (tree : Tree) → Decidable tree.IsWellFormed
  | nil => isTrue trivial
  | text t rest =>
    have := rest.decideWellFormed
    inferInstanceAs (Decidable (IsPlain t ∧ rest.IsWellFormed))
  | hole content rest =>
    have := rest.decideWellFormed
    inferInstanceAs (Decidable (content ≠ [] ∧ content.all isInside = true ∧ rest.IsWellFormed))
  | oneWay condition yes rest =>
    have := yes.decideWellFormed
    have := rest.decideWellFormed
    inferInstanceAs (Decidable (IsCondition condition ∧ yes.IsWellFormed ∧
      ¬ StandsAlone "ELSE".toList yes.outline ∧ rest.IsWellFormed))
  | twoWay condition yes no rest =>
    have := yes.decideWellFormed
    have := no.decideWellFormed
    have := rest.decideWellFormed
    inferInstanceAs (Decidable (IsCondition condition ∧ yes.IsWellFormed ∧
      ¬ StandsAlone "ELSE".toList yes.outline ∧ no.IsWellFormed ∧ rest.IsWellFormed))

instance (tree : Tree) : Decidable tree.IsWellFormed := tree.decideWellFormed

theorem IsWellFormed.append {tree other : Tree} (h : tree.IsWellFormed)
    (hother : other.IsWellFormed) : (tree.append other).IsWellFormed := by
  induction tree with
  | nil => exact hother
  | text _ _ ih => exact ⟨h.1, ih h.2⟩
  | hole _ _ ih => exact ⟨h.1, h.2.1, ih h.2.2⟩
  | oneWay _ _ _ _ ih => exact ⟨h.1, h.2.1, h.2.2.1, ih h.2.2.2⟩
  | twoWay _ _ _ _ _ _ ih => exact ⟨h.1, h.2.1, h.2.2.1, h.2.2.2.1, ih h.2.2.2.2⟩

/-! ## Trimmed trees -/

theorem isBlank_brace : isBlank '\x7d' = false := by decide

/-- The tree without its leading blanks. -/
def trimStart : Tree → Tree
  | text t rest => if isBlankText t then rest.trimStart else text (trimLeft t) rest
  | other => other

/-- The tree without its trailing blanks. -/
def trimEnd : Tree → Tree
  | nil => nil
  | text t rest =>
    if isBlankText rest.source then text (trimRight t) nil else text t rest.trimEnd
  | hole content rest => hole content rest.trimEnd
  | oneWay condition yes rest => oneWay condition yes rest.trimEnd
  | twoWay condition yes no rest => twoWay condition yes no rest.trimEnd

/-- The tree without the blanks at its two ends. -/
def trimmed (tree : Tree) : Tree := tree.trimStart.trimEnd

theorem source_trimStart (tree : Tree) : tree.trimStart.source = trimLeft tree.source := by
  induction tree with
  | nil => rfl
  | text t rest ih =>
      by_cases h : isBlankText t = true
      · rw [trimStart, if_pos h, ih, source, trimLeft_append_of_blank h]
      · rw [trimStart, if_neg h, source, source, trimLeft_append_of_not_blank (by simpa using h)]
  | hole content rest _ => rfl
  | oneWay condition yes rest _ _ => rfl
  | twoWay condition yes no rest _ _ _ => rfl

theorem source_trimEnd (tree : Tree) : tree.trimEnd.source = trimRight tree.source := by
  induction tree with
  | nil => rfl
  | text t rest ih =>
      by_cases h : isBlankText rest.source = true
      · rw [trimEnd, if_pos h, source, source, source, List.append_nil,
          trimRight_append_of_blank t h]
      · rw [trimEnd, if_neg h, source, source, ih,
          trimRight_append_of_not_blank t (by simpa using h)]
  | hole content rest ih =>
      rw [trimEnd, source, source, ih, trimRight_append_of_last]
      simp [isBlank_brace]
  | oneWay condition yes rest _ ih =>
      rw [trimEnd, source, source, ih, trimRight_append_of_last]
      simp [isBlank_brace]
  | twoWay condition yes no rest _ _ ih =>
      rw [trimEnd, source, source, ih, trimRight_append_of_last]
      simp [isBlank_brace]

/-- A trimmed tree writes the trimmed text. -/
@[simp] theorem source_trimmed (tree : Tree) : tree.trimmed.source = trim tree.source := by
  rw [trimmed, source_trimEnd, source_trimStart, trim]

theorem size_trimStart_le (tree : Tree) : tree.trimStart.size ≤ tree.size := by
  induction tree with
  | text t rest ih =>
      rw [trimStart]
      split
      · simp only [size]; omega
      · exact Nat.le_refl _
  | _ => exact Nat.le_refl _

theorem size_trimEnd_le (tree : Tree) : tree.trimEnd.size ≤ tree.size := by
  induction tree with
  | nil => exact Nat.le_refl _
  | text t rest ih =>
      rw [trimEnd]
      split
      · simp [size]
      · simp only [size]; omega
  | hole _ _ ih => simp only [trimEnd, size]; omega
  | oneWay _ _ _ _ ih => simp only [trimEnd, size]; omega
  | twoWay _ _ _ _ _ _ ih => simp only [trimEnd, size]; omega

theorem size_trimmed_le (tree : Tree) : tree.trimmed.size ≤ tree.size :=
  Nat.le_trans (size_trimEnd_le _) (size_trimStart_le _)

theorem IsWellFormed.trimStart {tree : Tree} (h : tree.IsWellFormed) :
    tree.trimStart.IsWellFormed := by
  induction tree with
  | text t rest ih =>
      rw [Tree.trimStart]
      split
      · exact ih h.2
      · exact ⟨fun c hc => h.1 c ((List.dropWhile_sublist _).subset hc), h.2⟩
  | _ => exact h

theorem IsWellFormed.trimEnd {tree : Tree} (h : tree.IsWellFormed) :
    tree.trimEnd.IsWellFormed := by
  induction tree with
  | nil => exact h
  | text t rest ih =>
      rw [Tree.trimEnd]
      split
      · exact ⟨fun c hc => h.1 c (mem_of_mem_trimRight hc), trivial⟩
      · exact ⟨h.1, ih h.2⟩
  | hole _ _ ih => exact ⟨h.1, h.2.1, ih h.2.2⟩
  | oneWay _ _ _ _ ih => exact ⟨h.1, h.2.1, h.2.2.1, ih h.2.2.2⟩
  | twoWay _ _ _ _ _ _ ih => exact ⟨h.1, h.2.1, h.2.2.1, h.2.2.2.1, ih h.2.2.2.2⟩

theorem IsWellFormed.trimmed {tree : Tree} (h : tree.IsWellFormed) :
    tree.trimmed.IsWellFormed :=
  h.trimStart.trimEnd

end Tree
end Questionnaire.Template
