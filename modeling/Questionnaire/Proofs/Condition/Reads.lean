import Questionnaire.Computation.Resolve
import Questionnaire.Proofs.Condition.Shape
import Questionnaire.Proofs.Formula.Names
import Questionnaire.Proofs.Value.Scope

/-!
# What an expression reads

A formula looks at its names only. A condition looks at the names in its tests
(`Condition.reads`) and, where it quantifies, at all names with a beginning
(`Condition.starts`), which it may read as formulas in turn. The tests stand in
pieces of its text (`exists_testOf_of_mem_tests`), so every bare word among what it
reads is an open word of that (`mem_openWords_of_mem_reads`), and two scopes that
agree there give it the same value (`compute_congr`).
-/

namespace Questionnaire

open Text

/-! ## What a condition reads -/

/-- The names that a side of a comparison may look at: itself and the names in it. -/
def Condition.sideReads (side : Text) : List Text := side :: Formula.namesIn side

/-- The names that a comparison may look at. -/
def Condition.Comparison.reads (comparison : Condition.Comparison) : List Text :=
  sideReads comparison.left ++ sideReads comparison.right

/-- The names that a test may look at, whatever names there are. -/
def Condition.Test.reads : Condition.Test → List Text
  | .literal _ => []
  | .name n => [n]
  | .anyStarting _ _ right => sideReads right
  | .compare comparison => comparison.reads
  | .unrecognized _ => []
  | .dangling _ => []

/-- The beginnings of names that a test quantifies over. -/
def Condition.Test.starts : Condition.Test → List Text
  | .anyStarting start _ _ => [start]
  | _ => []

/-- The names that a condition may look at, whatever names there are. -/
def Condition.reads : Condition → List Text
  | .always => []
  | .test _ single => single.reads
  | .denial operand => operand.reads
  | .either first rest => first.reads ++ rest.reads
  | .both first rest => first.reads ++ rest.reads

/-- The beginnings of names that a condition quantifies over. -/
def Condition.starts : Condition → List Text
  | .always => []
  | .test _ single => single.starts
  | .denial operand => operand.starts
  | .either first rest => first.starts ++ rest.starts
  | .both first rest => first.starts ++ rest.starts

/-- The tests of a condition. -/
def Condition.tests : Condition → List Condition.Test
  | .always => []
  | .test _ single => [single]
  | .denial operand => operand.tests
  | .either first rest => first.tests ++ rest.tests
  | .both first rest => first.tests ++ rest.tests

namespace Condition

variable {scope other : Scope}

/-! ## Tests over two scopes -/

/-- A comparison has one answer over two scopes that agree on what it reads. -/
theorem Comparison.answer?_congr {comparison : Comparison}
    (h : ∀ n ∈ comparison.reads, scope.get? n = other.get? n) :
    comparison.answer? scope = comparison.answer? other := by
  have hleft : scope.get? comparison.left = other.get? comparison.left :=
    h _ (by simp [reads, sideReads])
  have hright : scope.get? comparison.right = other.get? comparison.right :=
    h _ (by simp [reads, sideReads])
  have hleftValue : Formula.evaluate comparison.left scope
      = Formula.evaluate comparison.left other :=
    Formula.evaluate_congr fun n hn => h n (by simp [reads, sideReads, hn])
  have hrightValue : Formula.evaluate comparison.right scope
      = Formula.evaluate comparison.right other :=
    Formula.evaluate_congr fun n hn => h n (by simp [reads, sideReads, hn])
  rw [answer?, answer?, Scope.has, Scope.has, hleft, hright, hleftValue, hrightValue]

/-- A failure counts as a yes, so the names are asked in any order. -/
private theorem anyAnswer?_holds {answer? : Text → Except Fault Bool} {names : List Text} :
    (match anyAnswer? answer? names with
      | .ok answer => answer
      | .error _ => true) = true ↔ ∃ n ∈ names, answer? n ≠ .ok false := by
  induction names with
  | nil => simp [anyAnswer?]
  | cons n names ih =>
      simp only [List.mem_cons, exists_eq_or_imp, ← ih, anyAnswer?]
      cases hn : answer? n with
      | error fault => simp [bind, Except.bind]
      | ok answer => cases answer <;> simp [bind, Except.bind, pure, Except.pure]

/-- **A quantified test holds** if the comparison does not fail to hold at some
name with the beginning. -/
theorem holds_anyStarting {start right : Text} {relation : Relation} :
    (Test.anyStarting start relation right).holds scope = true ↔
      ∃ n, scope.has n = true ∧ hasStart start n = true ∧
        Comparison.answer? ⟨n, relation, right⟩ scope ≠ .ok false := by
  have hkeys : ∀ n, n ∈ namesStarting start scope ↔
      scope.has n = true ∧ hasStart start n = true := by
    intro n
    rw [namesStarting, List.mem_filter, Scope.has, ← Scope.mem_keys_iff]
  rw [Test.holds, Test.answer?]
  refine anyAnswer?_holds.trans ⟨?_, ?_⟩
  · rintro ⟨n, hn, hanswer⟩
    exact ⟨n, ((hkeys n).mp hn).1, ((hkeys n).mp hn).2, hanswer⟩
  · rintro ⟨n, hhas, hstart, hanswer⟩
    exact ⟨n, (hkeys n).mpr ⟨hhas, hstart⟩, hanswer⟩

/-- Two scopes agree on the names with a beginning that they hold, and on the
names in those. -/
def AgreeFrom (scope other : Scope) (start : Text) : Prop :=
  ∀ n, scope.has n = true ∨ other.has n = true → hasStart start n = true →
    ∀ m ∈ sideReads n, scope.get? m = other.get? m

theorem AgreeFrom.symm {start : Text} (h : AgreeFrom scope other start) :
    AgreeFrom other scope start :=
  fun n hhas hstart m hm => (h n hhas.symm hstart m hm).symm

/-- A test holds alike over two scopes that agree on what it reads and on the
names that it quantifies over. -/
theorem Test.holds_congr {single : Test}
    (hreads : ∀ n ∈ single.reads, scope.get? n = other.get? n)
    (hstarts : ∀ start ∈ single.starts, AgreeFrom scope other start) :
    single.holds scope = single.holds other := by
  cases single with
  | literal truth => rfl
  | name n => simp only [holds, answer?, hreads n (by simp [reads])]
  | compare comparison => rw [holds, holds, answer?, answer?, Comparison.answer?_congr hreads]
  | unrecognized text => rfl
  | dangling text => rfl
  | anyStarting start relation right =>
      -- The scopes may hold their names in any order, so the answers are not compared one
      -- by one: an answer that counts in one scope is found in the other.
      have himp : ∀ {scope other : Scope},
          (∀ n ∈ sideReads right, scope.get? n = other.get? n) → AgreeFrom scope other start →
          (Test.anyStarting start relation right).holds scope = true →
          (Test.anyStarting start relation right).holds other = true := by
        intro scope other hright hfrom h
        obtain ⟨n, hhas, hstart, hanswer⟩ := holds_anyStarting.mp h
        have hleft := hfrom n (.inl hhas) hstart
        refine holds_anyStarting.mpr ⟨n, ?_, hstart, ?_⟩
        · rwa [Scope.has, ← hleft n List.mem_cons_self]
        · have hsame : Comparison.answer? ⟨n, relation, right⟩ scope
              = Comparison.answer? ⟨n, relation, right⟩ other := by
            refine Comparison.answer?_congr fun m hm => ?_
            rcases List.mem_append.mp hm with hm | hm
            · exact hleft m hm
            · exact hright m hm
          rwa [← hsame]
      have hfrom := hstarts start (by simp [starts])
      rw [Bool.eq_iff_iff]
      exact ⟨himp hreads hfrom, himp (fun n hn => (hreads n hn).symm) hfrom.symm⟩

/-- **A condition holds alike** over two scopes that agree on what it reads and
on the names that it quantifies over. -/
theorem holds_congr {condition : Condition}
    (hreads : ∀ n ∈ condition.reads, scope.get? n = other.get? n)
    (hstarts : ∀ start ∈ condition.starts, AgreeFrom scope other start) :
    condition.holds scope = condition.holds other := by
  induction condition with
  | always => rfl
  | test source single => exact Test.holds_congr hreads hstarts
  | denial operand ih =>
      rw [holds, holds, ih hreads hstarts]
  | either first rest ihfirst ihrest =>
      rw [holds, holds, ihfirst (fun n hn => hreads n (List.mem_append_left _ hn))
          (fun start hs => hstarts start (List.mem_append_left _ hs)),
        ihrest (fun n hn => hreads n (List.mem_append_right _ hn))
          (fun start hs => hstarts start (List.mem_append_right _ hs))]
  | both first rest ihfirst ihrest =>
      rw [holds, holds, ihfirst (fun n hn => hreads n (List.mem_append_left _ hn))
          (fun start hs => hstarts start (List.mem_append_left _ hs)),
        ihrest (fun n hn => hreads n (List.mem_append_right _ hn))
          (fun start hs => hstarts start (List.mem_append_right _ hs))]

/-! ## Comparisons in a text -/

private theorem all_isBreak_symbol (relation : Relation) :
    relation.symbol.all isBreak = true := by
  cases relation <;> decide

/-- A symbol cuts the words of a text in two. -/
private theorem openWords_append_symbol (relation : Relation) (p q : Text) :
    openWords (p ++ relation.symbol ++ q) = openWords p ++ openWords q := by
  have hbreaks := all_isBreak_symbol relation
  obtain ⟨c, symbol, hsymbol⟩ : ∃ c symbol, relation.symbol = c :: symbol := by
    cases relation <;> exact ⟨_, _, rfl⟩
  rw [hsymbol, List.all_cons, Bool.and_eq_true] at hbreaks
  rw [hsymbol, List.append_assoc, List.cons_append, openWords_append_break p _ hbreaks.1,
    openWords_append_breaks_left hbreaks.2]

theorem relationAt?_spec {t right : Text} {relation : Relation}
    (h : relationAt? t = some (relation, right)) : t = relation.symbol ++ right := by
  obtain ⟨found, _, hfound⟩ := List.exists_of_findSome?_eq_some h
  split at hfound
  · rename_i c rest hafter
    cases hfound
    exact after?_eq_some.mp hafter
  · cases hfound

/-- **A comparison is cut out of its text at a symbol.** -/
theorem Comparison.find?_spec {before t : Text} {comparison : Comparison}
    (h : find? before t = some comparison) :
    ∃ p q, before.reverse ++ t = p ++ comparison.relation.symbol ++ q ∧
      comparison.left = trim p ∧ comparison.right = trim q := by
  induction t generalizing before with
  | nil => cases h
  | cons c t ih =>
      rw [find?] at h
      split at h
      · rename_i relation right hat
        cases h
        split at hat
        · cases hat
        · exact ⟨before.reverse, right, by rw [relationAt?_spec hat, List.append_assoc], rfl, rfl⟩
      · obtain ⟨p, q, hsplit, hleft, hright⟩ := ih h
        exact ⟨p, q, by simpa using hsplit, hleft, hright⟩

/-- The sides of a comparison have no words of their own. -/
theorem Comparison.openWords_sides {t : Text} {comparison : Comparison}
    (h : ofText? t = some comparison) :
    openWords comparison.left ⊆ openWords t ∧ openWords comparison.right ⊆ openWords t := by
  obtain ⟨p, q, hsplit, hleft, hright⟩ := find?_spec h
  have hwords : openWords t = openWords p ++ openWords q := by
    rw [← openWords_append_symbol comparison.relation, ← hsplit]
    exact (openWords_trim t).symm
  rw [hwords, hleft, hright, openWords_trim, openWords_trim]
  exact ⟨List.subset_append_left _ _, List.subset_append_right _ _⟩

/-- A quantified comparison has the word for it and a right side without words of its own. -/
private theorem quantified?_spec {t : Text} {single : Test} (h : quantified? t = some single) :
    ∃ start relation right, single = .anyStarting start relation right ∧
      "STARTS_WITH".toList ∈ openWords t ∧ openWords right ⊆ openWords t := by
  rw [quantified?, Option.bind_eq_some_iff] at h
  obtain ⟨rest, hrest, h⟩ := h
  split at h
  · cases h
  · rename_i hblanks
    dsimp only at h
    split at h
    · cases h
    · obtain ⟨found, hfound, hsingle⟩ := Option.map_eq_some_iff.mp h
      refine ⟨_, _, _, hsingle.symm, ?_, ?_⟩
      · cases rest with
        | nil => exact absurd rfl hblanks
        | cons c rest =>
            cases hc : isBlank c with
            | false => exact absurd (by simp [blanks, hc]) hblanks
            | true =>
                rw [after?_eq_some.mp hrest, openWords_append_break _ _ (isBreak_of_isBlank hc)]
                exact List.mem_append_left _ (by decide)
      · -- What stands before the right side is the word, a beginning of names and the symbol.
        obtain ⟨before, hbefore, _⟩ := trimLeft_spec rest
        obtain ⟨between, hbetween, _⟩ := trimLeft_spec ((trimLeft rest).dropWhile isWord)
        have hsplit : t = ("STARTS_WITH".toList ++ before ++ (trimLeft rest).takeWhile isWord
            ++ between) ++ found.1.symbol ++ found.2 := by
          rw [relationAt?_spec hfound] at hbetween
          rw [after?_eq_some.mp hrest]
          conv => lhs; rw [hbefore, ← List.takeWhile_append_dropWhile (p := isWord)
            (l := trimLeft rest), hbetween]
          simp only [List.append_assoc]
        rw [hsplit, openWords_append_symbol, openWords_trim]
        exact List.subset_append_right _ _

private theorem mem_openWords_of_mem_sideReads {side n : Text} (h : n ∈ sideReads side)
    (hword : isBareWord n = true) : n ∈ openWords side := by
  rcases List.mem_cons.mp h with rfl | h
  · simp [openWords_of_isBareWord hword]
  · exact Formula.namesIn_subset_openWords side h

/-- **A test reads words of its text only**, names of other shapes apart. -/
theorem mem_openWords_of_mem_reads_testOf {t n : Text} (h : n ∈ (testOf t).reads)
    (hword : isBareWord n = true) : n ∈ openWords t := by
  -- The readings in their order: two literals, a name, a quantifier, a comparison.
  rw [testOf] at h
  split at h
  · cases h
  · split at h
    · cases h
    · split at h
      · rename_i ht
        rw [openWords_of_isBareWord ht]
        exact h
      · split at h
        · rename_i single hsingle
          obtain ⟨start, relation, right, rfl, -, hright⟩ := quantified?_spec hsingle
          exact hright (mem_openWords_of_mem_sideReads h hword)
        · split at h
          · rename_i comparison hcomparison
            obtain ⟨hleft, hright⟩ := Comparison.openWords_sides hcomparison
            rcases List.mem_append.mp h with h | h
            · exact hleft (mem_openWords_of_mem_sideReads h hword)
            · exact hright (mem_openWords_of_mem_sideReads h hword)
          · cases h

/-- A test that quantifies has the word for it. -/
theorem mem_openWords_of_mem_starts_testOf {t start : Text} (h : start ∈ (testOf t).starts) :
    "STARTS_WITH".toList ∈ openWords t := by
  rw [testOf] at h
  split at h
  · cases h
  · split at h
    · cases h
    · split at h
      · cases h
      · split at h
        · rename_i single hsingle
          obtain ⟨_, _, _, -, hword, -⟩ := quantified?_spec hsingle
          exact hword
        · split at h <;> cases h

/-! ## Conditions in a text -/

theorem openWords_normalize (t : Text) : openWords (normalize t) ⊆ openWords t := by
  have hgen : ∀ (ks : List (Text × Relation)) (t : Text),
      openWords (ks.foldl
        (fun t keyword => replaceBy (widthSpaced keyword.1) (spaced keyword.2) t) t)
        ⊆ openWords t := by
    intro ks
    induction ks with
    | nil => exact fun t => List.Subset.refl _
    | cons k ks ih =>
        intro t
        have hbreaks : (spaced k.2).all isBreak = true := by cases k.2 <;> decide
        exact List.Subset.trans (ih _) (openWords_replaceBy (cutsAtBreaks_widthSpaced k.1)
          hbreaks (by simp [spaced]) t)
  exact hgen keywords t

private theorem cutsAtBreaks_widthOr : CutsAtBreaks widthOr := by
  intro s hs
  rw [widthOr] at hs ⊢
  split at hs
  · exact cutsAtBreaks_widthLoose (by decide) (by decide) s hs
  · exact cutsAtBreaks_widthSpaced _ s hs

private theorem cutsAtBreaks_widthAnd : CutsAtBreaks widthAnd := by
  intro s hs
  rw [widthAnd] at hs ⊢
  split at hs
  · exact cutsAtBreaks_widthLoose (by decide) (by decide) s hs
  · exact cutsAtBreaks_widthSpaced _ s hs

private theorem openWords_pieces {width : Text → Nat} (hw : CutsAtBreaks width) {t : Text}
    {parts : List Text} (h : pieces? width t = some parts) :
    ∀ p ∈ parts, openWords p ⊆ openWords t := by
  rw [pieces?] at h
  split at h
  · rename_i first second rest hsplit
    cases h
    intro p hp
    obtain ⟨piece, hpiece, rfl⟩ := List.mem_map.mp hp
    rw [openWords_trim]
    exact openWords_of_mem_splitBy hw (hsplit ▸ hpiece)
  · cases h

/-- The conditions inside a condition have no words of their own. -/
private theorem openWords_parts_shapeOf (t : Text) :
    ∀ p ∈ (shapeOf t).parts, openWords p ⊆ openWords t := by
  rw [shapeOf]
  split
  · rename_i rest hrest
    intro p hp
    obtain rfl : p = rest := by simpa [Shape.parts] using hp
    have hsplit : t = "NOT ".toList ++ p := after?_eq_some.mp hrest
    rw [show "NOT ".toList ++ p = "NOT".toList ++ ' ' :: p from rfl] at hsplit
    rw [hsplit, openWords_append_break _ p (by decide)]
    exact List.subset_append_right _ _
  · split
    · rename_i parts hparts
      split
      · exact fun p hp => absurd hp List.not_mem_nil
      · exact openWords_pieces cutsAtBreaks_widthOr hparts
    · split
      · rename_i parts hparts
        split
        · exact fun p hp => absurd hp List.not_mem_nil
        · exact openWords_pieces cutsAtBreaks_widthAnd hparts
      · exact fun p hp => absurd hp List.not_mem_nil

theorem shapeOf_of_shape {t : Text} {s : Shape} (h : shape t = s) (hne : s ≠ .always) :
    shapeOf (trim (normalize (trim t))) = s := by
  rw [shape] at h
  split at h
  · exact absurd h.symm hne
  · exact h

private theorem openWords_shape (t : Text) :
    openWords (trim (normalize (trim t))) ⊆ openWords t := by
  have := openWords_normalize (trim t)
  rwa [openWords_trim] at this ⊢

/-- The conditions inside a condition have no words of their own. -/
theorem openWords_parts_shape (t : Text) : ∀ p ∈ (shape t).parts, openWords p ⊆ openWords t := by
  intro p hp
  have hne : shape t ≠ .always := by
    intro h
    simp [h, Shape.parts] at hp
  rw [← shapeOf_of_shape rfl hne] at hp
  exact List.Subset.trans (openWords_parts_shapeOf _ p hp) (openWords_shape t)

/-! ## The tests of a condition -/

/-- The tests of a chain are those of the conditions in it. -/
theorem mem_tests_chain {connect : Condition → Condition → Condition} {single : Test}
    (hconnect : ∀ a b, (connect a b).tests = a.tests ++ b.tests) {conditions : List Condition}
    (h : single ∈ (chain connect conditions).tests) : ∃ c ∈ conditions, single ∈ c.tests := by
  induction conditions with
  | nil => cases h
  | cons first rest ih =>
      cases rest with
      | nil => exact ⟨first, List.mem_cons_self, h⟩
      | cons second rest =>
          rw [chain, hconnect, List.mem_append] at h
          rcases h with h | h
          · exact ⟨first, List.mem_cons_self, h⟩
          · obtain ⟨c, hc, hn⟩ := ih h
            exact ⟨c, List.mem_cons_of_mem _ hc, hn⟩

/-- **Every test of a condition** is read in a text without words of its own, unless a connective
dangles there. -/
theorem exists_testOf_of_mem_tests {t : Text} {single : Test} (h : single ∈ (ofText t).tests) :
    (∃ u, openWords u ⊆ openWords t ∧ single = testOf u) ∨ ∃ u, single = .dangling u := by
  -- What is read in a part of a condition is read in the condition.
  have hparts : ∀ t, ∀ part ∈ (shape t).parts,
      ((∃ u, openWords u ⊆ openWords part ∧ single = testOf u) ∨ ∃ u, single = .dangling u) →
        (∃ u, openWords u ⊆ openWords t ∧ single = testOf u) ∨ ∃ u, single = .dangling u := by
    intro t part hpart h
    refine h.imp_left ?_
    rintro ⟨u, hu, hsingle⟩
    exact ⟨u, List.Subset.trans hu (openWords_parts_shape t part hpart), hsingle⟩
  induction t using ofText.induct with
  | case1 t hshape =>
      rw [ofText_of_always hshape] at h
      cases h
  | case2 t rest hshape _ ih =>
      rw [ofText_of_denial hshape] at h
      exact hparts t rest (by simp [hshape, Shape.parts]) (ih h)
  | case3 t parts hshape ih =>
      rw [ofText_of_anyOf hshape] at h
      obtain ⟨c, hc, hmem⟩ := mem_tests_chain (fun _ _ => rfl) h
      obtain ⟨part, hpart, rfl⟩ := List.mem_map.mp hc
      exact hparts t part (by simp [hshape, Shape.parts, hpart]) (ih ⟨part, hpart⟩ hmem)
  | case4 t parts hshape ih =>
      rw [ofText_of_allOf hshape] at h
      obtain ⟨c, hc, hmem⟩ := mem_tests_chain (fun _ _ => rfl) h
      obtain ⟨part, hpart, rfl⟩ := List.mem_map.mp hc
      exact hparts t part (by simp [hshape, Shape.parts, hpart]) (ih ⟨part, hpart⟩ hmem)
  | case5 t test hshape =>
      rw [ofText_of_test hshape] at h
      obtain rfl : single = test := by simpa [tests] using h
      have hread := shapeOf_of_shape hshape (by simp)
      rw [shapeOf] at hread
      split at hread
      · cases hread
      · split at hread
        · split at hread <;> cases hread
          exact .inr ⟨_, rfl⟩
        · split at hread
          · split at hread <;> cases hread
            exact .inr ⟨_, rfl⟩
          · cases hread
            exact .inl ⟨_, openWords_shape t, rfl⟩

/-- A condition reads what its tests read. -/
theorem reads_eq (condition : Condition) :
    condition.reads = condition.tests.flatMap Test.reads := by
  induction condition with
  | always => rfl
  | test _ single => simp [reads, tests]
  | denial operand ih => exact ih
  | either first rest ihfirst ihrest | both first rest ihfirst ihrest =>
      rw [reads, tests, ihfirst, ihrest, List.flatMap_append]

/-- A condition quantifies over what its tests quantify over. -/
theorem starts_eq (condition : Condition) :
    condition.starts = condition.tests.flatMap Test.starts := by
  induction condition with
  | always => rfl
  | test _ single => simp [starts, tests]
  | denial operand ih => exact ih
  | either first rest ihfirst ihrest | both first rest ihfirst ihrest =>
      rw [starts, tests, ihfirst, ihrest, List.flatMap_append]

/-- **A condition reads words of its text only**, names of other shapes apart. -/
theorem mem_openWords_of_mem_reads {t n : Text} (h : n ∈ (ofText t).reads)
    (hword : isBareWord n = true) : n ∈ openWords t := by
  rw [reads_eq] at h
  obtain ⟨single, hmem, hn⟩ := List.mem_flatMap.mp h
  rcases exists_testOf_of_mem_tests hmem with ⟨u, hsub, rfl⟩ | ⟨u, rfl⟩
  · exact hsub (mem_openWords_of_mem_reads_testOf hn hword)
  · cases hn

/-- A condition without the word for it quantifies over nothing. -/
theorem starts_eq_nil {t : Text} (h : "STARTS_WITH".toList ∉ openWords t) :
    (ofText t).starts = [] := by
  refine List.eq_nil_iff_forall_not_mem.mpr fun start hstart => ?_
  rw [starts_eq] at hstart
  obtain ⟨single, hmem, hstart⟩ := List.mem_flatMap.mp hstart
  rcases exists_testOf_of_mem_tests hmem with ⟨u, hsub, rfl⟩ | ⟨u, rfl⟩
  · exact h (hsub (mem_openWords_of_mem_starts_testOf hstart))
  · cases hstart

end Condition
end Questionnaire

namespace Questionnaire.Computation

open Text

/-! ## Computations over two scopes -/

variable {expression : Text} {scope other : Scope}

/-- The names that an expression may look at, whatever names there are. -/
def reads (expression : Text) : List Text :=
  if isFormula expression then Formula.namesIn expression
  else (Condition.ofText expression).reads

/-- An expression has one value over two scopes that agree on what it reads and on
what it quantifies over. -/
theorem compute_congr_reads (hreads : ∀ n ∈ reads expression, scope.get? n = other.get? n)
    (hstarts : ∀ start ∈ (Condition.ofText expression).starts,
      Condition.AgreeFrom scope other start) :
    compute expression scope = compute expression other := by
  rw [reads] at hreads
  rw [compute, compute]
  split at hreads
  · rename_i hformula
    rw [if_pos hformula, if_pos hformula, Formula.evaluate_congr hreads]
  · rename_i hformula
    rw [if_neg hformula, if_neg hformula, Condition.evaluate, Condition.evaluate,
      Condition.holds_congr hreads hstarts]

/-- **The value of an expression is decided** by the open words of its text, by the
names of other shapes, and by what its quantifiers go over. -/
theorem compute_congr (hopen : ∀ n ∈ openWords expression, scope.get? n = other.get? n)
    (hother : ∀ n, isBareWord n = false → scope.get? n = other.get? n)
    (hstarts : ∀ start ∈ (Condition.ofText expression).starts,
      Condition.AgreeFrom scope other start) :
    compute expression scope = compute expression other := by
  refine compute_congr_reads (fun n hn => ?_) hstarts
  cases hword : isBareWord n with
  | false => exact hother n hword
  | true =>
      rw [reads] at hn
      split at hn
      · exact hopen n (Formula.namesIn_subset_openWords _ hn)
      · exact hopen n (Condition.mem_openWords_of_mem_reads hn hword)

end Questionnaire.Computation
