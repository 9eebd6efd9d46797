import Mathlib.Logic.Relation
import Questionnaire.Proofs.Computation.Closed

/-!
# Computations that fail

A computation is carried out over the values that are computed before it (`seen`). A
formula that has no value there is zero, and a condition that cannot be told holds, as a
condition does everywhere. Either way the failure ends there: what does not depend on the
computation (`DependsOn`) has the value that it has without it (`resolve_failing`), since
all of that is a closed part of the scope.
-/

namespace Questionnaire.Computation

open Text

variable {declared : List Computation} {known prior : Scope} {c d : Computation}

/-! ## The value of a computation -/

/-- The values that a computation is carried out over: the known ones under those that are
computed before it. -/
def seen (declared : List Computation) (known prior : Scope) (c : Computation) : Scope :=
  (((ordered declared).takeWhile fun d => d.name ≠ c.name).foldl (carry known) prior).onto known

theorem nodup_names_ordered (hnames : (declared.map Computation.name).Nodup) :
    ((ordered declared).map Computation.name).Nodup := by
  cases h : isOrderable declared with
  | true => exact (((perm_ordered hnames h).map Computation.name).nodup_iff).mpr hnames
  | false => rwa [ordered, if_neg (by simp [h])]

/-- **A computation has the value of its expression** over what it sees. -/
theorem get?_resolve_own (hnames : (declared.map Computation.name).Nodup) (hc : c ∈ declared)
    (known prior : Scope) :
    (resolve declared known prior).get? c.name
      = some (compute c.expression (seen declared known prior c)) := by
  obtain ⟨front, back, hsplit⟩ := List.append_of_mem (mem_ordered_of_mem hnames hc)
  have hdistinct := nodup_names_ordered hnames
  rw [hsplit, List.map_append, List.map_cons, List.nodup_append, List.nodup_cons] at hdistinct
  obtain ⟨-, ⟨hback, -⟩, hfront⟩ := hdistinct
  have hbefore : ∀ d ∈ front, decide (d.name ≠ c.name) = true := fun d hd =>
    decide_eq_true (hfront d.name (List.mem_map_of_mem hd) c.name List.mem_cons_self)
  have hbehind : ∀ d ∈ back, c.name ≠ d.name := fun d hd hname =>
    hback (hname ▸ List.mem_map_of_mem hd)
  rw [resolve, seen, hsplit, List.takeWhile_append_of_pos hbefore,
    List.takeWhile_cons_of_neg (by simp), List.append_nil, List.foldl_append, List.foldl_cons,
    get?_foldl_carry_of_not_mem hbehind, get?_carry, if_pos rfl]

/-- A condition that cannot be told holds. -/
theorem evaluate_of_check?_error {t : Text} {scope : Scope} {fault : Condition.Fault}
    (h : Condition.check? scope (Condition.ofText t) = .error fault) :
    Condition.evaluate t scope = true := by
  rw [Condition.evaluate]
  cases hread : Condition.ofText t with
  | test source single =>
      rw [hread, Condition.check?] at h
      rw [Condition.holds, Condition.Test.holds, h]
  | _ =>
      rw [hread] at h
      cases h

/-! ## What depends on a computation -/

/-- The computation looks at the other one: it mentions it, so that it waits for it, or reads
its value. -/
def LooksAt (c d : Computation) : Prop := c.Uses d ∨ d.name ∈ reads c.expression

instance (c d : Computation) : Decidable (c.LooksAt d) :=
  inferInstanceAs (Decidable (_ ∨ _))

/-- The computation looks at the other one, or at one of the scope that depends on it. -/
def DependsOn (declared : List Computation) : Computation → Computation → Prop :=
  Relation.TransGen fun c d => d ∈ declared ∧ c.LooksAt d

/-- The name is neither that of the computation nor of one that depends on it. -/
def Untouched (declared : List Computation) (c : Computation) (n : Text) : Prop :=
  ∀ d ∈ declared, d.name = n → d ≠ c ∧ ¬ DependsOn declared d c

/-- What is not touched looks at nothing that is. -/
theorem Untouched.of_looksAt (h : Untouched declared c d.name) (hd : d ∈ declared) {n : Text}
    (hn : n ∈ dependencies d.expression ∨ n ∈ reads d.expression) : Untouched declared c n := by
  obtain ⟨-, hnot⟩ := h d hd rfl
  rintro e he rfl
  have hlooks : e ∈ declared ∧ d.LooksAt e := ⟨he, hn⟩
  refine ⟨?_, fun hdepends => hnot (.head hlooks hdepends)⟩
  rintro rfl
  exact hnot (.single hlooks)

/-- **A computation that does not depend on another one** has the same value without it: what
is untouched is a closed part of the scope. -/
theorem get?_resolve_untouched (hnames : (declared.map Computation.name).Nodup)
    (horderable : isOrderable declared = true) (hprior : (prior.map Prod.fst).Nodup)
    (hstarts : ∀ d ∈ declared, (Condition.ofText d.expression).starts = []) (hc : c ∈ declared)
    (hd : d ∈ declared) (hne : d ≠ c) (hnot : ¬ DependsOn declared d c) :
    (resolve declared known prior).get? d.name
      = (resolve (declared.filter fun e => e.name ≠ c.name) known prior).get? d.name := by
  classical
  have hclosed : IsClosed (fun n => decide (Untouched declared c n)) declared := {
    uses := fun e he h _ _ huses =>
      decide_eq_true ((of_decide_eq_true h).of_looksAt he (.inl huses))
    reads := fun e he h _ hn => decide_eq_true ((of_decide_eq_true h).of_looksAt he (.inr hn))
    starts := fun e he _ => hstarts e he }
  refine hclosed.get?_resolve_without (q := fun n => n ≠ c.name) hnames horderable hprior
    (fun e he h => ?_) ?_
  · refine decide_eq_true fun hname => ?_
    exact ((of_decide_eq_true h) c hc hname.symm).1 rfl
  · refine decide_eq_true fun e he hname => ?_
    exact eq_of_name_eq hnames he hd hname ▸ ⟨hne, hnot⟩

/-! ## Failures -/

/-- **A failing computation** of a scope with distinct names leaves the others alone. As a formula
it is zero, as a condition it holds; a computation that does not depend on it has the value that it
has in the scope without it, if the scope can be ordered and none of its expressions quantifies. -/
theorem resolve_failing (hnames : (declared.map Computation.name).Nodup)
    (hprior : (prior.map Prod.fst).Nodup) (hc : c ∈ declared) :
    (∀ fault, isFormula c.expression = true →
      Formula.evaluate? c.expression (seen declared known prior c) = .error fault →
        (resolve declared known prior).get? c.name = some (.float 0)) ∧
    (∀ fault, isFormula c.expression = false →
      Condition.check? (seen declared known prior c) (Condition.ofText c.expression)
          = .error fault →
        (resolve declared known prior).get? c.name = some (.bool true)) ∧
    (isOrderable declared = true →
      (∀ d ∈ declared, "STARTS_WITH".toList ∉ openWords d.expression) →
        ∀ d ∈ declared, d ≠ c → ¬ DependsOn declared d c →
          (resolve declared known prior).get? d.name
            = (resolve (declared.filter fun e => e.name ≠ c.name) known prior).get? d.name) := by
  refine ⟨fun fault hformula hfault => ?_, fun fault hcondition hfault => ?_,
    fun horderable hwords d hd hne hnot => ?_⟩
  · rw [get?_resolve_own hnames hc, compute, if_pos hformula, Formula.evaluate, hfault]
  · rw [get?_resolve_own hnames hc, compute, if_neg (by simp [hcondition]),
      evaluate_of_check?_error hfault]
  · exact get?_resolve_untouched hnames horderable hprior
      (fun e he => Condition.starts_eq_nil (hwords e he)) hc hd hne hnot

/-- A formula and a condition that fail, a computation that hangs on one, and one that does not. -/
def failingScope : List Computation :=
  [⟨"broken".toList, "a / b".toList⟩, ⟨"next".toList, "broken + 1".toList⟩,
    ⟨"odd".toList, "x >".toList⟩, ⟨"ok".toList, "a + 1".toList⟩]

/-- Answers with a zero to divide by. -/
def failingAnswers : Scope := [("a".toList, .text "4".toList), ("b".toList, .text "0".toList)]

theorem resolve_failing_division :
    (failingScope.map Computation.name).Nodup ∧ isOrderable failingScope = true ∧
      (resolve failingScope failingAnswers []).get? "broken".toList = some (.float 0) ∧
      (resolve failingScope failingAnswers []).get? "odd".toList = some (.bool true) ∧
      (resolve failingScope failingAnswers []).get? "ok".toList
        = (resolve (failingScope.filter fun e => e.name ≠ "broken".toList) failingAnswers
            []).get? "ok".toList := by
  have hnames : (failingScope.map Computation.name).Nodup := by decide
  have horderable : isOrderable failingScope = true := by decide +kernel
  have hprior : (([] : Scope).map Prod.fst).Nodup := List.nodup_nil
  have hlooks : ∀ d ∈ failingScope, ¬ LooksAt ⟨"ok".toList, "a + 1".toList⟩ d := by decide +kernel
  have hnot : ¬ DependsOn failingScope ⟨"ok".toList, "a + 1".toList⟩
      ⟨"broken".toList, "a / b".toList⟩ := by
    intro h
    obtain ⟨d, ⟨hd, hlooksAt⟩, -⟩ := Relation.TransGen.head'_iff.mp h
    exact hlooks d hd hlooksAt
  refine ⟨hnames, horderable, ?_, ?_, ?_⟩
  · exact (resolve_failing hnames hprior (c := ⟨"broken".toList, "a / b".toList⟩)
      (by decide)).1 .divisionByZero (by decide +kernel) (by decide +kernel)
  · exact (resolve_failing hnames hprior (c := ⟨"odd".toList, "x >".toList⟩)
      (by decide)).2.1 (.unrecognized "x >".toList) (by decide +kernel) (by decide +kernel)
  · exact (resolve_failing hnames hprior (c := ⟨"broken".toList, "a / b".toList⟩)
      (by decide)).2.2 horderable (by decide +kernel) ⟨"ok".toList, "a + 1".toList⟩ (by decide)
      (by decide) hnot

/-- A name that is declared twice is counted as two that are carried out, so the order seems
complete although a computation that mentions itself is missing in it. -/
example : isOrderable [⟨"a".toList, "1 + 1".toList⟩, ⟨"a".toList, "1 + 1".toList⟩,
      ⟨"b".toList, "b / 0".toList⟩] = true ∧
    (resolve [⟨"a".toList, "1 + 1".toList⟩, ⟨"a".toList, "1 + 1".toList⟩,
      ⟨"b".toList, "b / 0".toList⟩] [] []).has "b".toList = false := by
  decide +kernel

end Questionnaire.Computation
