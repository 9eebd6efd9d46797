import Questionnaire.Proofs.Condition.FailOpen

/-!
# Evaluation call by call

Evaluating a condition calls for the conditions inside it, and rewrites the text
before every call. Here the calls are left open: an evaluator is told what to
call (`inner?`, `outer?`). It asks only about texts that are strictly shorter than
its own (`inner?_congr`), since writing keyword operators as symbols lengthens
nothing and each part of a pattern is less than the whole. So as many calls within
each other as the text has characters, and one more, are enough for every
condition, and they give the answer of `evaluate` (`within?_eq`).
-/

namespace Questionnaire.Condition

open Text

variable {call other : Text → Option Bool} {scope : Scope} {t : Text}

/-! ## Evaluators that are told what to call -/

/-- The answers to conditions one after the other up to the first that is `decisive`; the opposite
of it if there is none. -/
def firstAnswer? (call : Text → Option Bool) (decisive : Bool) : List Text → Option Bool
  | [] => some !decisive
  | part :: rest => (call part).bind fun answer =>
      if answer = decisive then some decisive else firstAnswer? call decisive rest

/-- The answer to a pattern or the fault in it, from the answers to the conditions inside it. -/
def Shape.answer? (call : Text → Option Bool) (scope : Scope) :
    Shape → Option (Except Fault Bool)
  | .always => some (.ok true)
  | .denial rest => (call rest).map fun answer => .ok !answer
  | .anyOf parts => (firstAnswer? call true parts).map fun answer => .ok answer
  | .allOf parts => (firstAnswer? call false parts).map fun answer => .ok answer
  | .test single => some (single.answer? scope)

/-- The inner evaluator: it writes keyword operators as symbols and reads the pattern. -/
def inner? (call : Text → Option Bool) (scope : Scope) (t : Text) : Option (Except Fault Bool) :=
  if isBlankText (normalize t) then some (.ok true)
  else (shapeOf (trim (normalize t))).answer? call scope

/-- The answer, yes if there is a fault instead. -/
def failOpen : Except Fault Bool → Bool
  | .ok answer => answer
  | .error _ => true

/-- The outer evaluator. -/
def outer? (call : Text → Option Bool) (scope : Scope) (t : Text) : Option Bool :=
  if isBlankText t then some true else (inner? call scope (trim t)).map failOpen

/-- The outer evaluator with calls of itself, no more than a number of them within each other. -/
def within? (scope : Scope) : Nat → Text → Option Bool
  | 0, _ => none
  | depth + 1, t => outer? (within? scope depth) scope t

/-! ## Calls are for shorter texts -/

/-- **Every part of a condition is shorter** than the condition as it was before its keyword
operators were written as symbols. -/
theorem length_part {part : Text} (h : part ∈ (shapeOf (trim (normalize t))).parts) :
    part.length < t.length :=
  calc part.length
      < (trim (normalize t)).length := length_parts_shapeOf _ part h
    _ ≤ (normalize t).length := length_trim_le _
    _ ≤ t.length := length_normalize_le t

theorem firstAnswer?_congr (decisive : Bool) (parts : List Text)
    (h : ∀ part ∈ parts, call part = other part) :
    firstAnswer? call decisive parts = firstAnswer? other decisive parts := by
  induction parts with
  | nil => rfl
  | cons part rest ih =>
      rw [firstAnswer?, firstAnswer?, h part List.mem_cons_self,
        ih fun part hpart => h part (List.mem_cons_of_mem _ hpart)]

/-- A pattern calls for its parts only. -/
theorem Shape.answer?_congr {shape : Shape} (h : ∀ part ∈ shape.parts, call part = other part) :
    shape.answer? call scope = shape.answer? other scope := by
  cases shape with
  | always => rfl
  | denial rest => rw [answer?, answer?, h rest (List.mem_singleton.mpr rfl)]
  | anyOf parts => rw [answer?, answer?, firstAnswer?_congr true parts h]
  | allOf parts => rw [answer?, answer?, firstAnswer?_congr false parts h]
  | test single => rfl

/-- **The inner evaluator calls for shorter texts only**: what is called for other texts makes no
difference. -/
theorem inner?_congr (h : ∀ part, part.length < t.length → call part = other part) :
    inner? call scope t = inner? other scope t := by
  rw [inner?, inner?, Shape.answer?_congr fun part hpart => h part (length_part hpart)]

/-- So does the outer evaluator. -/
theorem outer?_congr (h : ∀ part, part.length < t.length → call part = other part) :
    outer? call scope t = outer? other scope t := by
  have hle := length_trim_le t
  rw [outer?, outer?, inner?_congr fun part hpart => h part (Nat.lt_of_lt_of_le hpart hle)]

/-! ## What the calls come to -/

theorem firstAnswer?_true (answer : Text → Bool) (parts : List Text) :
    firstAnswer? (fun part => some (answer part)) true parts = some (parts.any answer) := by
  induction parts with
  | nil => rfl
  | cons part rest ih => cases h : answer part <;> simp [firstAnswer?, h, ih]

theorem firstAnswer?_false (answer : Text → Bool) (parts : List Text) :
    firstAnswer? (fun part => some (answer part)) false parts = some (parts.all answer) := by
  induction parts with
  | nil => rfl
  | cons part rest ih => cases h : answer part <;> simp [firstAnswer?, h, ih]

/-- What is joined are several conditions. -/
theorem several_of_shape {parts : List Text} (h : shape t = .anyOf parts ∨ shape t = .allOf parts) :
    ∃ first second rest, parts = first :: second :: rest := by
  have hpieces : ∃ width u, pieces? width u = some parts := by
    rw [shape, shapeOf] at h
    grind
  obtain ⟨width, u, h⟩ := hpieces
  rw [pieces?] at h
  split at h
  · cases h
    exact ⟨_, _, _, rfl⟩
  · cases h

/-- A fault can be told only where a condition is a single test: what has parts has an answer. -/
theorem check?_ofText (scope : Scope) (t : Text) :
    (shape t).answer? (fun part => some (evaluate part scope)) scope
      = some (check? scope (ofText t)) := by
  cases hshape : shape t with
  | always =>
      rw [ofText_of_always hshape]
      rfl
  | denial rest =>
      rw [ofText_of_denial hshape]
      rfl
  | anyOf parts =>
      obtain ⟨first, second, rest, rfl⟩ := several_of_shape (.inl hshape)
      have hholds : evaluate t scope = _ := evaluate_of_shape_anyOf hshape
      rw [evaluate, ofText_of_anyOf hshape] at hholds
      rw [Shape.answer?, firstAnswer?_true, ← hholds, ofText_of_anyOf hshape]
      rfl
  | allOf parts =>
      obtain ⟨first, second, rest, rfl⟩ := several_of_shape (.inr hshape)
      have hholds : evaluate t scope = _ := evaluate_of_shape_allOf hshape
      rw [evaluate, ofText_of_allOf hshape] at hholds
      rw [Shape.answer?, firstAnswer?_false, ← hholds, ofText_of_allOf hshape]
      rfl
  | test single =>
      rw [ofText_of_test hshape]
      rfl

/-- With the right answers to what it calls for, the inner evaluator gives the answer to the
condition or the fault in it. -/
theorem inner?_evaluate (scope : Scope) (t : Text) :
    inner? (fun part => some (evaluate part scope)) scope (trim t)
      = some (check? scope (ofText t)) := by
  have hblank : isBlankText (normalize (trim t)) = isBlankText t := by
    rw [(sameBlanks_normalize _).blank, isBlankText_trim]
  rw [inner?, hblank, ← check?_ofText]
  by_cases ht : isBlankText t = true
  · have hshape : shape t = .always := by rw [shape, if_pos ht]
    rw [if_pos ht, hshape]
    rfl
  · rw [if_neg ht, shape_of_not_blank (by simpa using ht)]

theorem failOpen_check? (scope : Scope) (condition : Condition) :
    failOpen (check? scope condition) = condition.holds scope := by
  cases condition with
  | test source single =>
      rw [check?, holds, Test.holds]
      cases single.answer? scope <;> rfl
  | _ => rfl

/-- And the outer evaluator gives the answer of the whole evaluation. -/
theorem outer?_evaluate (scope : Scope) (t : Text) :
    outer? (fun part => some (evaluate part scope)) scope t = some (evaluate t scope) := by
  by_cases ht : isBlankText t = true
  · have hshape : shape t = .always := by rw [shape, if_pos ht]
    rw [outer?, if_pos ht, evaluate, ofText_of_always hshape]
    rfl
  · rw [outer?, if_neg ht, inner?_evaluate, Option.map_some, failOpen_check?, evaluate]

/-- **Calls end**: more of them within each other than the text has characters are never asked
for. -/
theorem within?_eq {depth : Nat} (h : t.length < depth) :
    within? scope depth t = some (evaluate t scope) := by
  induction depth generalizing t with
  | zero => omega
  | succ depth ih =>
      have hcalls : ∀ part, part.length < t.length →
          within? scope depth part = some (evaluate part scope) :=
        fun part hpart => ih (by omega)
      rw [within?, outer?_congr hcalls, outer?_evaluate]

/-! ## Every condition -/

/-- **Evaluation ends for every condition.** Writing keyword operators as symbols never lengthens
it, and each condition inside its pattern is strictly shorter. Both evaluators ask for the answers
to strictly shorter texts only. So both answer where one call more may be within each other than
the text has characters: the outer one as `evaluate` does, and the inner one with what `check?`
tells. -/
theorem evaluation_ends (scope : Scope) (t : Text) :
    (normalize t).length ≤ t.length ∧
    (∀ part ∈ (shapeOf (trim (normalize t))).parts, part.length < t.length) ∧
    (∀ call other : Text → Option Bool,
      (∀ part, part.length < t.length → call part = other part) →
      inner? call scope t = inner? other scope t ∧ outer? call scope t = outer? other scope t) ∧
    ∀ depth, t.length < depth →
      within? scope depth t = some (evaluate t scope) ∧
        inner? (within? scope depth) scope (trim t) = some (check? scope (ofText t)) := by
  refine ⟨length_normalize_le t, fun part => length_part,
    fun call other h => ⟨inner?_congr h, outer?_congr h⟩, fun depth h => ⟨within?_eq h, ?_⟩⟩
  have hle := length_trim_le t
  rw [inner?_congr fun part hpart => within?_eq (by omega), inner?_evaluate]

/-- A denial of a disjunction, with a keyword operator in each part of it. -/
def petsText : Text := "NOT pets IS_NOT Dog OR home IS x && sick".toList

theorem evaluation_ends_petsText :
    ("pets != Dog OR home == x && sick".toList ∈ (shapeOf (trim (normalize petsText))).parts ∧
      "pets != Dog OR home == x && sick".toList.length < petsText.length) ∧
    inner? (fun part => if part.length < petsText.length then some true else none) [] petsText
      = inner? (fun _ => some true) [] petsText ∧
    petsText.length < 41 ∧
      evaluate petsText [("pets".toList, .text "Dog".toList), ("sick".toList, .bool true)]
        = true := by
  obtain ⟨-, hparts, hcalls, -⟩ := evaluation_ends [] petsText
  have hpart : "pets != Dog OR home == x && sick".toList
      ∈ (shapeOf (trim (normalize petsText))).parts := by decide +kernel
  have hdepth : petsText.length < 41 := by decide
  have hends := (evaluation_ends
    [("pets".toList, .text "Dog".toList), ("sick".toList, .bool true)] petsText).2.2.2 41 hdepth
  have hanswer : within? [("pets".toList, .text "Dog".toList), ("sick".toList, .bool true)] 41
      petsText = some true := by decide +kernel
  refine ⟨⟨hpart, hparts _ hpart⟩, (hcalls _ _ fun part h => ?_).1, hdepth, ?_⟩
  · exact if_pos h
  · exact Option.some.inj (hends.1.symm.trans hanswer)

end Questionnaire.Condition
