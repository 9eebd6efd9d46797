import Questionnaire.Condition.Comparison
import Questionnaire.Text.LowerCase
/-!
Conditions. A condition is matched by patterns in a fixed order and not by precedence: after its
keyword operators are written as symbols, the first of negation, OR, AND, a truth word, a bare
name, a quantified comparison and a comparison that fits decides. So `NOT a OR b` denies the
whole of `a OR b`, and OR is looser than AND. `ofText` reads a condition into a tree; the texts
that it goes down to are strictly shorter than the text that holds them.
-/
namespace Questionnaire

open Text

namespace Condition

/-- A condition without connectives. -/
inductive Test where
  | literal (truth : Bool)
  | name (n : Text)
  | anyStarting (start : Text) (relation : Relation) (right : Text)
  | compare (comparison : Comparison)
  | unrecognized (text : Text)
  | dangling (text : Text)
deriving DecidableEq, Repr

/-- The outermost pattern of a condition. -/
inductive Shape where
  | always
  | denial (rest : Text)
  | anyOf (parts : List Text)
  | allOf (parts : List Text)
  | test (test : Test)
deriving DecidableEq, Repr

/-- The width of an OR. -/
def widthOr (t : Text) : Nat :=
  match widthSpaced "OR".toList t with
  | 0 => widthLoose "||".toList t
  | width => width

/-- The width of an AND. -/
def widthAnd (t : Text) : Nat :=
  match widthSpaced "AND".toList t with
  | 0 => widthLoose "&&".toList t
  | width => width

/-- The quantified comparison: the word for it, a name or the beginning of one, and a comparison
with it. -/
def quantified? (t : Text) : Option Test :=
  (after? "STARTS_WITH".toList t).bind fun rest =>
    if blanks rest = 0 then none
    else
      let start := (trimLeft rest).takeWhile isWord
      if start.isEmpty then none
      else
        (relationAt? (trimLeft ((trimLeft rest).dropWhile isWord))).map fun found =>
          .anyStarting start found.1 (trim found.2)

/-- The test that a condition without connectives makes. -/
def testOf (t : Text) : Test :=
  if lower t = "true".toList then .literal true
  else if lower t = "false".toList then .literal false
  else if isBareWord t then .name t
  else
    match quantified? t with
    | some quantified => quantified
    | none =>
      match Comparison.ofText? t with
      | some comparison => .compare comparison
      | none => .unrecognized t

/-- The pieces between connectives without blanks around them, if there are several. -/
def pieces? (width : Text → Nat) (t : Text) : Option (List Text) :=
  match splitBy width t with
  | first :: second :: rest => some ((first :: second :: rest).map trim)
  | _ => none

/-- The outermost pattern of a condition whose keyword operators are symbols. -/
def shapeOf (t : Text) : Shape :=
  match after? "NOT ".toList t with
  | some rest => .denial rest
  | none =>
    match pieces? widthOr t with
    | some parts => if parts.any List.isEmpty then .test (.dangling t) else .anyOf parts
    | none =>
      match pieces? widthAnd t with
      | some parts => if parts.any List.isEmpty then .test (.dangling t) else .allOf parts
      | none => .test (testOf t)

/-- The outermost pattern of a condition. -/
def shape (t : Text) : Shape :=
  if isBlankText t then .always else shapeOf (trim (normalize (trim t)))

/-- The conditions inside a pattern. -/
def Shape.parts : Shape → List Text
  | .denial rest => [rest]
  | .anyOf parts => parts
  | .allOf parts => parts
  | _ => []

theorem length_pieces {width : Text → Nat} {t : Text} {parts : List Text}
    (h : pieces? width t = some parts) : ∀ p ∈ parts, p.length < t.length := by
  unfold pieces? at h
  split at h
  · rename_i first second rest hs
    cases h
    intro p hp
    obtain ⟨piece, hm, rfl⟩ := List.mem_map.1 hp
    exact Nat.lt_of_le_of_lt (length_trim_le piece)
      (length_lt_of_mem_splitBy (hs ▸ hm) (by simp [hs]))
  · cases h

theorem length_parts_shapeOf (t : Text) : ∀ p ∈ (shapeOf t).parts, p.length < t.length := by
  unfold shapeOf
  split
  · rename_i rest h
    have := length_after? h
    have : ("NOT ".toList).length = 4 := by decide
    intro p hp
    simp only [Shape.parts, List.mem_singleton] at hp
    subst hp
    omega
  · split
    · rename_i parts h
      split
      · simp [Shape.parts]
      · exact length_pieces h
    · split
      · rename_i parts h
        split
        · simp [Shape.parts]
        · exact length_pieces h
      · simp [Shape.parts]

/-- The conditions inside a condition are strictly shorter. -/
theorem length_parts_shape (t : Text) : ∀ p ∈ (shape t).parts, p.length < t.length := by
  unfold shape
  split
  · simp [Shape.parts]
  · intro p hp
    have h := length_parts_shapeOf _ p hp
    have h1 := length_trim_le (normalize (trim t))
    have h2 := length_normalize_le (trim t)
    have h3 := length_trim_le t
    omega

end Condition

/-- A condition as a tree. A test keeps the text that it was read from. -/
inductive Condition where
  | always
  | test (source : Text) (test : Condition.Test)
  | denial (operand : Condition)
  | either (first rest : Condition)
  | both (first rest : Condition)
deriving DecidableEq, Repr

namespace Condition

/-- Conditions under one connective; no condition at all holds always. -/
def chain (connect : Condition → Condition → Condition) : List Condition → Condition
  | [] => .always
  | [last] => last
  | first :: second :: rest => connect first (chain connect (second :: rest))

/-- The condition that a text writes. -/
def ofText (t : Text) : Condition :=
  match h : shape t with
  | .always => .always
  | .denial rest =>
    have := length_parts_shape t rest (by simp [h, Shape.parts])
    .denial (ofText rest)
  | .anyOf parts =>
    chain .either (parts.attach.map fun part =>
      have := length_parts_shape t part.1 (by simp [h, Shape.parts, part.2])
      ofText part.1)
  | .allOf parts =>
    chain .both (parts.attach.map fun part =>
      have := length_parts_shape t part.1 (by simp [h, Shape.parts, part.2])
      ofText part.1)
  | .test single => .test t single
termination_by t.length

end Condition
end Questionnaire
