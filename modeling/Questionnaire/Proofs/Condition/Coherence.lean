import Questionnaire.Proofs.Condition.Comparing
import Questionnaire.Proofs.Decimal.Ordering
import Questionnaire.Proofs.Decimal.PlainNumber

/-!
# How the relations of a comparison go together

The six relations between a name and a right side are asked for along different
ways: equality goes over words, items and texts, order over what a value counts as.
With a plain number on the right both look at how the value stands to it, and so
they agree (`coheres`), but for truth values and maps. Inequality is the complement
of equality for every answered name (`evaluate_different`). Both break where a
number is compared for equality that an information separator is around: the order
reads it, the equality does not.
-/

namespace Questionnaire

open Text Decimal

/-- Something was answered, and it counts as a number. -/
def Value.IsAnswer : Value → Prop
  | .null => False
  | .int n => (ofInt? n).isSome = true
  | _ => True

/-- Every value of the scope is an answer. -/
def Scope.IsAnswered (scope : Scope) : Prop :=
  ∀ n value, scope.get? n = some value → value.IsAnswer

theorem Value.IsAnswer.exists_toNumber? {value : Value} (h : value.IsAnswer) :
    ∃ x, value.toNumber? = some x := by
  cases value with
  | null => exact h.elim
  | int n => exact Option.isSome_iff_exists.mp h
  | _ => exact ⟨_, rfl⟩

namespace Condition

theorem count_of_toNumber? {value : Value} {x : Float} (h : value.toNumber? = some x) :
    count (some value) = .ok x := by
  simp [count, h]

theorem written_of_readFloat? {t : Text} {x : Float} (h : readFloat? t = some x) :
    written t = .ok x := by
  simp [written, h]

/-! ## Comparing a value with a number -/

/-- How a value stands to a number: a text that is no plain number in no way. -/
def standing (value : Value) (y : Float) : Option Ordering :=
  match value with
  | .text s => if isPlainNumber s then order (Value.textNumber s) y else none
  | other => other.toNumber?.bind fun x => order x y

/-- A truth value or a map: it equals words and not numbers, though it is ordered with them. -/
def equalsWords : Value → Bool
  | .bool _ => true
  | .map _ => true
  | _ => false

section

variable {value : Value} {target : Text} {y : Float}

/-- Two numbers are ordered, or a text that is no plain number is ordered with nothing. -/
theorem measures?_eq (hvalue : value.IsAnswer) (hplain : isPlainNumber target = true)
    (hy : readFloat? target = some y) {relation : Relation} (hrelation : relation ≠ .different) :
    measures? relation value target = .ok (relation.admits (standing value y)) := by
  obtain ⟨x, hx⟩ := hvalue.exists_toNumber?
  have hcount := count_of_toNumber? hx
  have hwritten := written_of_readFloat? hy
  have hnone : relation.admits none = false := by
    cases relation <;> first | rfl | exact absurd rfl hrelation
  cases value with
  | text s =>
      obtain rfl : Value.textNumber s = x := Option.some.inj hx
      by_cases hs : isPlainNumber s = true
      · simp [measures?, standing, hplain, hs, hcount, hwritten, Relation.holds_eq]
        rfl
      · simp [measures?, standing, hs, hnone]
  | _ =>
    simp [measures?, standing, hplain, hcount, hwritten, hx, Relation.holds_eq]
    rfl

/-- A value equals a plain number if it stands so to it and is not one that equals words. -/
theorem equals?_eq (hvalue : value.IsAnswer) (hlist : ∀ items, value ≠ .list items)
    (hplain : isPlainNumber target = true) (hy : readFloat? target = some y)
    (htext : ∀ s, value = .text s → IsReadable s) :
    equals? value target = .ok (!equalsWords value && standing value y == some .eq) := by
  have hwritten := written_of_readFloat? hy
  cases value with
  | null => exact hvalue.elim
  | list items => exact absurd rfl (hlist items)
  | bool b =>
      have hword : lower target ≠ if b then "true".toList else "false".toList :=
        lower_ne_of_isPlainNumber hplain (by cases b <;> decide)
      simpa [equals?, equalsWords] using hword
  | int n =>
      obtain ⟨x, hx⟩ := hvalue.exists_toNumber?
      simp [equals?, equalsWords, standing, hplain, count_of_toNumber? hx, hwritten, hx]
      rfl
  | float x =>
      simp [equals?, equalsWords, standing, hplain, hwritten, Value.toNumber?]
      rfl
  | text s =>
      by_cases hs : isPlainNumber s = true
      · obtain ⟨x, hx, htrim⟩ := (htext s rfl).exists_readFloat? hs
        have hnumber : Value.textNumber s = x := by
          rw [textNumber_of_isPlainNumber hs, htrim, Option.getD_some]
        simp [equals?, equalsWords, standing, hplain, hs, written_of_readFloat? hx, hwritten,
          hnumber]
        rfl
      · have hne : s ≠ target := by
          rintro rfl
          exact hs hplain
        simp [equals?, equalsWords, standing, hs, hne]
  | map entries =>
      have hne : (Value.map entries).printed ≠ target := by
        intro heq
        have hbrace : '\x7b' ∈ target := by simp [← heq, Value.printed, Value.inner]
        exact absurd (mem_of_isPlainNumber hplain hbrace) (by decide)
      simp [equals?, equalsWords, hne]

/-- **Equality with a plain number.** A list equals it by its length. -/
theorem comparesText?_equal (hvalue : value.IsAnswer) (hplain : isPlainNumber target = true)
    (hy : readFloat? target = some y) (htext : ∀ s, value = .text s → IsReadable s) :
    comparesText? .equal (some value) target
      = .ok (!equalsWords value && standing value y == some .eq) := by
  cases value with
  | null => exact hvalue.elim
  | list items =>
      simp only [comparesText?, hplain, if_true]
      exact measures?_eq hvalue hplain hy (by decide)
  | _ => exact equals?_eq hvalue (by simp) hplain hy htext

/-- **Order with a plain number.** -/
theorem comparesText?_order (hvalue : value.IsAnswer) (hplain : isPlainNumber target = true)
    (hy : readFloat? target = some y) {relation : Relation} (hequal : relation ≠ .equal)
    (hdifferent : relation ≠ .different) :
    comparesText? relation (some value) target = .ok (relation.admits (standing value y)) := by
  have hmeasures := measures?_eq hvalue hplain hy hdifferent
  cases value with
  | null => exact hvalue.elim
  | _ => cases relation <;> first | simpa [comparesText?] using hmeasures | contradiction

end

/-! ## A name and a number -/

section

variable {x t : Text}

/-- A plain number is a term. -/
theorem isTerm_of_isPlainNumber (h : isPlainNumber t = true) : IsTerm t := by
  have hout : ∀ z : Text,
      (z.any fun c => !isBlank c && !isDecimal c && c ≠ '.' && c ≠ '-') = true → ¬ z <:+: t := by
    intro z hz hin
    obtain ⟨c, hc, hsign⟩ := List.any_eq_true.mp hz
    simp only [Bool.and_eq_true, Bool.not_eq_true', decide_eq_true_eq] at hsign
    obtain ⟨⟨⟨hblank, hdecimal⟩, hpoint⟩, hminus⟩ := hsign
    simpa [hblank, hdecimal, hpoint, hminus] using mem_of_isPlainNumber h (hin.subset hc)
  refine ⟨isBlankText_of_isPlainNumber h, ?_, ?_⟩
  · rintro keyword hk ⟨before, after, rfl, -⟩
    have hall : (keywords.all fun keyword => keyword.1.any fun c =>
        !isBlank c && !isDecimal c && c ≠ '.' && c ≠ '-') = true := by decide
    exact hout _ (List.all_eq_true.mp hall keyword hk) ⟨before, after, rfl⟩
  · rintro k (⟨before, after, rfl, -⟩ | hmark)
    · exact hout k.word (by cases k <;> decide) ⟨before, after, rfl⟩
    · exact hout k.mark (by cases k <;> decide) hmark

/-- A name is compared with a plain number as with a text. -/
theorem answer?_of_isPlainNumber (hx : isBareWord x = true) (ht : isPlainNumber t = true)
    (relation : Relation) (scope : Scope) : Comparison.answer? ⟨x, relation, trim t⟩ scope
      = comparesText? relation (scope.get? x) (trim t) := by
  have hplain : isPlainNumber (trim t) = true := isPlainNumber_trim t ▸ ht
  have hunquote : unquote (trim t) = trim t := by
    rw [unquote_of_isPlainNumber hplain, trim_trim]
  have hempty : (trim t).isEmpty = false := by
    obtain ⟨c, hc, -⟩ := exists_isDecimal ht
    rw [List.isEmpty_eq_false_iff]
    exact List.ne_nil_of_mem hc
  simp [Comparison.answer?, Formula.isComputation_of_isBareWord hx,
    isComputation_of_isPlainNumber hplain, hplain, hunquote, hempty]

theorem evaluate_number (hx : isBareWord x = true) (hkey : x ∉ conditionWords)
    (ht : isPlainNumber t = true) {relation : Relation} {scope : Scope} {answer : Bool}
    (h : comparesText? relation (scope.get? x) (trim t) = .ok answer) :
    evaluate (compares x (.symbol relation) t) scope = answer := by
  rw [evaluate_compares hx hkey (isTerm_of_isPlainNumber ht), Test.holds, Test.answer?]
  simp only [Operator.relation, answer?_of_isPlainNumber hx ht, h]

/-- Whether a comparison with a symbol holds. -/
def Satisfies (scope : Scope) (x : Text) (relation : Relation) (t : Text) : Prop :=
  evaluate (compares x (.symbol relation) t) scope = true

instance (scope : Scope) (x : Text) (relation : Relation) (t : Text) :
    Decidable (Satisfies scope x relation t) :=
  inferInstanceAs (Decidable (evaluate (compares x (.symbol relation) t) scope = true))

/-- The value counts as the number that the text writes. -/
def CountsAs (value : Value) (t : Text) : Prop :=
  ∃ x y, value.toNumber? = some x ∧ readFloat? (trim t) = some y ∧ (x == y) = true

/-- How the relations between a name and a number go together. -/
structure Coheres (scope : Scope) (x t : Text) (value : Value) : Prop where
  notBelowEqual : ¬ (Satisfies scope x .below t ∧ Satisfies scope x .equal t)
  notEqualAbove : ¬ (Satisfies scope x .equal t ∧ Satisfies scope x .above t)
  notBelowAbove : ¬ (Satisfies scope x .below t ∧ Satisfies scope x .above t)
  atLeast : Satisfies scope x .above t ∨ Satisfies scope x .equal t → Satisfies scope x .atLeast t
  atMost : Satisfies scope x .below t ∨ Satisfies scope x .equal t → Satisfies scope x .atMost t
  /-- Nothing else is at least or at most the number, truth values and maps apart. -/
  onlyNumbers : equalsWords value = false →
    (Satisfies scope x .atLeast t → Satisfies scope x .above t ∨ Satisfies scope x .equal t) ∧
      (Satisfies scope x .atMost t → Satisfies scope x .below t ∨ Satisfies scope x .equal t)
  /-- Truth values and maps equal no number, also not the one that they count as. -/
  words : equalsWords value = true → ¬ Satisfies scope x .equal t ∧
    (Satisfies scope x .atLeast t ↔ Satisfies scope x .above t ∨ CountsAs value t) ∧
      (Satisfies scope x .atMost t ↔ Satisfies scope x .below t ∨ CountsAs value t)

/-- What truth values and maps count as is how they stand to a number. -/
theorem countsAs_iff {value : Value} {y : Float} (hwords : equalsWords value = true)
    (hy : readFloat? (trim t) = some y) : CountsAs value t ↔ standing value y = some .eq := by
  have hgen : ∀ z, value.toNumber? = some z → standing value y = order z y →
      (CountsAs value t ↔ standing value y = some .eq) := by
    intro z hz hstanding
    rw [hstanding]
    constructor
    · rintro ⟨z', y', hz', hy', heq⟩
      obtain rfl := Option.some.inj (hz.symm.trans hz')
      obtain rfl := Option.some.inj (hy.symm.trans hy')
      rw [beq_eq_order] at heq
      exact beq_iff_eq.mp heq
    · intro horder
      refine ⟨z, y, hz, hy, ?_⟩
      rw [beq_eq_order, horder]
      rfl
  cases value with
  | bool b => exact hgen _ rfl rfl
  | map entries => exact hgen _ rfl rfl
  | _ => cases hwords

/-- The age in an answer is a text. -/
def ageScope : Scope := [("age".toList, .text "4".toList)]

end

/-! ## Inequality -/

section

variable {value : Value} {target : Text}

/-- If two numbers are compared for equality, then no information separator is around one of
them. -/
def IsComparable (value : Value) (target : Text) : Prop :=
  match value with
  | .bool _ => True
  | .map _ => True
  | .text s =>
    isPlainNumber s = true → isPlainNumber target = true → IsReadable s ∧ IsReadable target
  | _ => IsReadable target

/-- Whether a comparable value equals a text can be told. -/
theorem exists_equals? (hvalue : value.IsAnswer) (h : IsComparable value target) :
    ∃ b, equals? value target = .ok b := by
  cases value with
  | int _ | float _ =>
      by_cases hplain : isPlainNumber target = true
      · obtain ⟨y, hy, -⟩ := IsReadable.exists_readFloat? h hplain
        exact ⟨_, equals?_eq hvalue (by simp) hplain hy (by simp)⟩
      · exact ⟨_, by simp only [equals?, hplain]; rfl⟩
  | text s =>
      by_cases hplain : isPlainNumber target = true ∧ isPlainNumber s = true
      · obtain ⟨hs, htarget⟩ := h hplain.2 hplain.1
        obtain ⟨y, hy, -⟩ := htarget.exists_readFloat? hplain.1
        refine ⟨_, equals?_eq hvalue (by simp) hplain.1 hy ?_⟩
        rintro s ⟨⟩
        exact hs
      · rw [not_and] at hplain
        exact ⟨s == target, by simpa [equals?] using fun h1 h2 => absurd h2 (hplain h1)⟩
  | _ => exact ⟨_, rfl⟩

/-- **Inequality with a text** is the complement of equality. -/
theorem comparesText?_different (hvalue : value.IsAnswer) (h : IsComparable value target) :
    ∃ b, comparesText? .equal (some value) target = .ok b ∧
      comparesText? .different (some value) target = .ok !b := by
  have hmatch : (∀ items, value = .list items → isPlainNumber target = false) →
      ∃ b, comparesText? .equal (some value) target = .ok b ∧
        comparesText? .different (some value) target = .ok !b := by
    intro hlist
    obtain ⟨b, hb⟩ := exists_equals? hvalue h
    refine ⟨b, ?_, ?_⟩
    all_goals
      cases value with
      | null => exact hvalue.elim
      | list items => simp [comparesText?, hlist items rfl, hb, Except.map]
      | _ => simp [comparesText?, hb, Except.map]
  cases value with
  | list items =>
      cases hplain : isPlainNumber target with
      | false => exact hmatch fun _ _ => hplain
      | true =>
          -- A list is compared by its length here, under either relation.
          obtain ⟨y, hy, -⟩ := IsReadable.exists_readFloat? h hplain
          refine ⟨Float.ofNat items.length == y, ?_, ?_⟩
          all_goals
            simp [comparesText?, measures?, hplain, written_of_readFloat? hy,
              show count (some (.list items)) = .ok _ from count_of_toNumber? rfl]
            rfl
  | _ => exact hmatch (by simp)

variable {scope : Scope} {left right : Text}

/-- **Inequality is the complement of equality** along each of the ways a comparison goes. -/
theorem answer?_different (hscope : scope.IsAnswered) (hvalue : scope.get? left = some value)
    (h : IsComparable value (unquote right)) :
    ∃ b, Comparison.answer? ⟨left, .equal, right⟩ scope = .ok b ∧
      Comparison.answer? ⟨left, .different, right⟩ scope = .ok !b := by
  have hanswer := hscope left value hvalue
  obtain ⟨x, hx⟩ := hanswer.exists_toNumber?
  simp only [Comparison.answer?, hvalue]
  split
  · exact ⟨_, rfl, rfl⟩
  · split
    · rename_i hname
      simp only [Bool.and_eq_true, Scope.has, Option.isSome_iff_exists] at hname
      obtain ⟨other, hother⟩ := hname.1.2
      obtain ⟨y, hy⟩ := (hscope right other hother).exists_toNumber?
      rw [hother, count_of_toNumber? hx, count_of_toNumber? hy]
      exact ⟨_, rfl, rfl⟩
    · split
      · exact ⟨_, rfl, rfl⟩
      · exact comparesText?_different hanswer h

/-- The pets in an answer are a list. -/
def petList : Scope := [("pets".toList, .list [.text "Dog".toList, .text "Cat".toList])]

/-- With an information separator behind a number, it is equal and unequal to every other one. -/
example : Satisfies [("x".toList, .text "5\x1c".toList)] "x".toList .equal "6".toList ∧
    Satisfies [("x".toList, .text "5\x1c".toList)] "x".toList .different "6".toList := by
  decide +kernel

end

end Condition

end Questionnaire
