import Questionnaire.Proofs.Condition.Connectives
import Questionnaire.Proofs.Template.Branches
import Questionnaire.Template

/-!
# What a tree means

A tree has a meaning of its own: plain text stands for itself, a placeholder for
what is written for it, and a conditional for the branch that its condition
chooses, without the blanks around it (`Tree.filled?`). Filling the text that
writes the tree comes to the same (`fill?_source`), although it works on the flat
text: it puts the branch in the place of the block and begins again there.
-/

namespace Questionnaire.Template

open Text

variable {choose : Text → Bool} {scope : Scope}

/-! ## The meaning of a tree -/

/-- One text and the next, if there are both. -/
def followed (first next : Option Text) : Option Text :=
  first.bind fun t => next.map (t ++ ·)

theorem followed_some (t : Text) (next : Option Text) :
    followed (some t) next = next.map (t ++ ·) := rfl

@[simp] theorem followed_nil (next : Option Text) : followed (some []) next = next := by
  cases next <;> rfl

theorem followed_assoc (first second third : Option Text) :
    followed (followed first second) third = followed first (followed second third) := by
  cases first <;> cases second <;> cases third <;> simp [followed]

namespace Tree

/-- What the tree stands for. There is none only where nothing can be written for a
placeholder. -/
def filled? (scope : Scope) : Tree → Option Text
  | nil => some []
  | text t rest => followed (some t) (rest.filled? scope)
  | hole content rest => followed (fillHole? scope content) (rest.filled? scope)
  | oneWay condition yes rest =>
    followed (if Condition.evaluate condition scope then yes.trimmed.filled? scope else some [])
      (rest.filled? scope)
  | twoWay condition yes no rest =>
    followed (if Condition.evaluate condition scope then yes.trimmed.filled? scope
        else no.trimmed.filled? scope)
      (rest.filled? scope)
termination_by tree => tree.size
decreasing_by all_goals grind [size, size_trimmed_le]

/-- Trees are filled one after the other. -/
theorem filled?_append (tree other : Tree) :
    (tree.append other).filled? scope = followed (tree.filled? scope) (other.filled? scope) := by
  induction tree with
  | nil => simp [append, filled?]
  | text t rest ih => simp [append, filled?, ih, followed_assoc]
  | hole content rest ih => simp [append, filled?, ih, followed_assoc]
  | oneWay condition yes rest _ ih => simp [append, filled?, ih, followed_assoc]
  | twoWay condition yes no rest _ _ ih => simp [append, filled?, ih, followed_assoc]

end Tree

/-! ## Blocks are settled where they stand -/

theorem cutOpening?_eq (before t : Text) :
    cutOpening? before t = (cutOpening? [] t).map fun cut => (before.reverse ++ cut.1, cut.2) := by
  induction t generalizing before with
  | nil => rfl
  | cons c t ih =>
      by_cases hpair : c = '\x7b' ∧ t.head? = some '\x7b'
      · obtain ⟨rfl, hhead⟩ := hpair
        obtain ⟨more, rfl⟩ := List.head?_eq_some_iff.mp hhead
        simp [cutOpening?]
      · have hstep : ∀ b, cutOpening? b (c :: t) = cutOpening? (c :: b) t := by
          intro b
          rw [cutOpening?]
          rintro more rfl rfl
          exact hpair ⟨rfl, rfl⟩
        rw [hstep, hstep, ih, ih [c], Option.map_map]
        simp [Function.comp_def]

/-- What has no pair of braces is passed on the way to the next block. -/
theorem cutOpening?_run {t u : Text} (h : Unpaired u t) (before : Text) :
    cutOpening? before (t ++ u) = cutOpening? (t.reverse ++ before) u := by
  induction t generalizing before with
  | nil => rfl
  | cons c t ih =>
      rw [List.cons_append, cutOpening?]
      · rw [ih h.2]
        simp
      · rintro more rfl hmore
        exact h.1 (.inl rfl) (by simp [hmore])

theorem settle_eq (choose : Text → Bool) (t : Text) :
    settle choose t = match settleOne? choose t with
      | none => t
      | some settled => settled.1 ++ settle choose settled.2 := by
  rw [settle]
  split <;> simp_all

theorem settle_nil : settle choose [] = [] := by
  rw [settle_eq]
  rfl

/-- Where no pair of braces begins, nothing is settled. -/
theorem settle_run {t u : Text} (h : Unpaired u t) :
    settle choose (t ++ u) = t ++ settle choose u := by
  have hone : settleOne? choose (t ++ u)
      = (settleOne? choose u).map fun settled => (t ++ settled.1, settled.2) := by
    rw [settleOne?, settleOne?, cutOpening?_run h, cutOpening?_eq]
    cases cutOpening? [] u with
    | none => rfl
    | some cut =>
        simp only [Option.map_some, Option.bind_some]
        cases closingFrom 1 0 0 cut.2 with
        | none => rfl
        | some size =>
            rcases hbranches : Branches.ofText? (cut.2.take size) with _ | branches <;>
              simp [hbranches]
  rw [settle_eq, settle_eq choose u, hone]
  cases settleOne? choose u with
  | none => rfl
  | some settled => simp

/-- **A conditional gives way to the branch that is chosen**, which is looked at again. -/
theorem settle_block {inside u : Text} {branches : Branches} (h : Balanced inside)
    (hbranches : Branches.ofText? inside = some branches) :
    settle choose (block inside ++ u)
      = settle choose ((if choose branches.condition then branches.yes else branches.no) ++ u) := by
  have hcut : cutOpening? [] (block inside ++ u)
      = some ([], inside ++ '\x7d' :: '\x7d' :: u) := by
    simp [block, cutOpening?]
  rw [settle_eq, settleOne?, hcut]
  simp [closingFrom_block h, hbranches]

/-! ## Placeholders are filled where they stand -/

theorem piecesFrom_skip (previous : Option Char) (t u : Text) :
    piecesFrom previous t.length (t ++ u) = piecesFrom (t.getLast?.or previous) 0 u := by
  induction t generalizing previous with
  | nil => rfl
  | cons c t ih =>
      rw [List.length_cons, List.cons_append, piecesFrom, ih, List.getLast?_cons]
      cases t.getLast? <;> rfl

/-- Plain text is taken character by character. -/
theorem piecesFrom_plain {t : Text} (h : IsPlain t) {previous : Option Char}
    (hprevious : previous ≠ some '\\') :
    ∃ next, next ≠ some '\\' ∧
      ∀ u, piecesFrom previous 0 (t ++ u) = t.map .plain ++ piecesFrom next 0 u := by
  induction t generalizing previous with
  | nil => exact ⟨previous, hprevious, fun u => rfl⟩
  | cons c t ih =>
      obtain ⟨hin, hslash⟩ := h c List.mem_cons_self
      have hlast : some c ≠ some '\\' := by simpa using hslash
      obtain ⟨next, hnext, ht⟩ := ih (fun d hd => h d (List.mem_cons_of_mem c hd)) hlast
      have hopen := (ne_of_isInside hin).1
      refine ⟨next, hnext, fun u => ?_⟩
      simp [piecesFrom, hopen, ht]

/-- A placeholder that stands behind no backslash is one piece. -/
theorem piecesFrom_written {content : Text} (hne : content ≠ [])
    (h : content.all isInside = true) {previous : Option Char}
    (hprevious : previous ≠ some '\\') (u : Text) :
    piecesFrom previous 0 (written content ++ u)
      = .hole content :: piecesFrom (some '\x7d') 0 u := by
  have htake : (content ++ '\x7d' :: u).takeWhile isInside = content := by
    rw [List.takeWhile_append_of_pos (List.all_eq_true.mp h)]
    simp [isInside]
  have hdrop : (content ++ '\x7d' :: u).dropWhile isInside = '\x7d' :: u := by
    rw [List.dropWhile_append_of_pos (List.all_eq_true.mp h)]
    simp [isInside]
  have hhole : holeAt? (content ++ '\x7d' :: u) = some content := by
    simp [holeAt?, htake, hdrop, hne]
  have hskip := piecesFrom_skip (some '\x7b') (content ++ ['\x7d']) u
  rw [List.length_append, List.length_singleton, List.getLast?_append, List.append_assoc,
    List.singleton_append] at hskip
  rw [written, List.append_assoc, List.cons_append, piecesFrom]
  simp [hprevious, hhole, hskip]

theorem fillPieces?_plain (t : Text) (pieces : List Piece) :
    fillPieces? scope (t.map .plain ++ pieces) = (fillPieces? scope pieces).map (t ++ ·) := by
  induction t with
  | nil => simp
  | cons c t ih => simp [fillPieces?, ih, Function.comp_def]

theorem fillPieces?_hole (content : Text) (pieces : List Piece) :
    fillPieces? scope (.hole content :: pieces)
      = followed (fillHole? scope content) (fillPieces? scope pieces) := by
  cases hfirst : fillHole? scope content <;> cases hnext : fillPieces? scope pieces <;>
    simp [fillPieces?, followed, hfirst, hnext]

/-! ## The text and the tree -/

/-- Filling what a tree writes, behind anything but a backslash, comes to what the tree stands
for. -/
theorem fillPieces?_source (scope : Scope) {tree : Tree} (h : tree.IsWellFormed)
    {previous : Option Char} (hprevious : previous ≠ some '\\') :
    fillPieces? scope (piecesFrom previous 0 (settle (Condition.evaluate · scope) tree.source))
      = tree.filled? scope := by
  -- The chosen branch takes the place of its block, so the induction is on the size: what is
  -- left is a tree again, and smaller.
  generalize hn : tree.size = n
  induction n using Nat.strongRecOn generalizing tree previous with
  | ind n ih =>
      have hchosen : ∀ {branch rest : Tree}, branch.IsWellFormed → rest.IsWellFormed →
          branch.size + rest.size < n →
          fillPieces? scope (piecesFrom previous 0 (settle (Condition.evaluate · scope)
              (trim branch.source ++ rest.source)))
            = followed (branch.trimmed.filled? scope) (rest.filled? scope) := by
        intro branch rest hbranch hrest hsize
        have hsmall := branch.size_trimmed_le
        rw [← Tree.source_trimmed, ← Tree.source_append, ← Tree.filled?_append]
        exact ih _ (by rw [Tree.size_append]; omega) (hbranch.trimmed.append hrest) hprevious rfl
      cases tree with
      | nil => simp [Tree.source, Tree.filled?, settle_nil, piecesFrom, fillPieces?]
      | text t rest =>
          have hin : t.all isInside = true := List.all_eq_true.mpr fun c hc => (h.1 c hc).1
          obtain ⟨next, hnext, ht⟩ := piecesFrom_plain h.1 hprevious
          have hrest := ih rest.size (by simp only [Tree.size] at hn; omega) h.2 hnext rfl
          rw [Tree.source, settle_run (unpaired_of_inside hin _), ht, fillPieces?_plain, hrest,
            Tree.filled?, followed_some]
      | hole content rest =>
          have hclose : some '\x7d' ≠ some '\\' := by decide
          have hrest := ih rest.size (by simp only [Tree.size] at hn; omega) h.2.2 hclose rfl
          rw [Tree.source, settle_run (unpaired_written h.1 h.2.1 h.2.2.balanced.head?_ne),
            piecesFrom_written h.1 h.2.1 hprevious, fillPieces?_hole, hrest, Tree.filled?]
      | oneWay condition yes rest =>
          obtain ⟨hc, hyes, hstands, hrest⟩ := h
          have hbranch := hchosen hyes hrest (by simp only [Tree.size] at hn; omega)
          have hnone := ih rest.size (by simp only [Tree.size] at hn; omega) hrest hprevious rfl
          rw [Tree.source, settle_block (hc.balanced.append hyes.balanced)
            (ofText?_oneWay hc hyes hstands), Condition.evaluate_trim, Tree.filled?]
          split
          · exact hbranch
          · simpa using hnone
      | twoWay condition yes no rest =>
          obtain ⟨hc, hyes, hstands, hno, hrest⟩ := h
          have hfirst := hchosen hyes hrest (by simp only [Tree.size] at hn; omega)
          have hsecond := hchosen hno hrest (by simp only [Tree.size] at hn; omega)
          rw [Tree.source, settle_block (balanced_choice hc hyes.balanced hno.balanced)
            (ofText?_twoWay hc hyes hstands no.source), Condition.evaluate_trim, Tree.filled?]
          split
          · exact hfirst
          · exact hsecond

/-! ## Placeholders -/

/-- An answer that is a text is written as it is. -/
theorem fillHole?_of_text {content answer : Text}
    (h : scope.get? (cutStyle (trim content)).1 = some (.text answer)) :
    fillHole? scope content = some answer := by
  rw [fillHole?, meaning, h]
  rfl

/-- A placeholder that names no value and is no computation stays, with its braces escaped. -/
theorem fillHole?_of_nothing {content : Text}
    (h : scope.get? (cutStyle (trim content)).1 = none)
    (hformula : Formula.isComputation (cutStyle (trim content)).1 = false) :
    fillHole? scope content = some (escaped content) := by
  rw [fillHole?, meaning, h]
  simp [hformula]

/-- Something is written for a placeholder exactly if the value that it names can be shown. -/
theorem isSome_fillHole?_iff {content : Text} :
    (fillHole? scope content).isSome = true ↔
      ∀ value, scope.get? (cutStyle (trim content)).1 = some value →
        (show? (cutStyle (trim content)).2 value).isSome = true := by
  constructor
  · intro h value hvalue
    rwa [fillHole?, meaning, hvalue] at h
  · intro h
    rw [fillHole?, meaning]
    cases hvalue : scope.get? (cutStyle (trim content)).1 with
    | some value => exact h value hvalue
    | none =>
        by_cases hformula : Formula.isComputation (cutStyle (trim content)).1 = true <;>
          simp [hformula]

theorem isSome_followed {first next : Option Text} (hfirst : first.isSome = true)
    (hnext : next.isSome = true) : (followed first next).isSome = true := by
  obtain ⟨t, rfl⟩ := Option.isSome_iff_exists.mp hfirst
  simpa [followed] using hnext

/-- Where all values can be shown, every tree stands for something. -/
theorem Tree.isSome_filled?
    (h : ∀ name value style, scope.get? name = some value → (show? style value).isSome = true)
    (tree : Tree) : (tree.filled? scope).isSome = true := by
  fun_induction tree.filled? scope with
  | case1 => rfl
  | case2 t rest ih => exact isSome_followed rfl ih
  | case3 content rest ih => exact isSome_followed (isSome_fillHole?_iff.mpr fun v => h _ v _) ih
  | case4 condition yes rest ihyes ih =>
      refine isSome_followed ?_ ih
      split
      · exact ihyes
      · rfl
  | case5 condition yes no rest ihyes ihno ih =>
      refine isSome_followed ?_ ih
      split
      · exact ihyes
      · exact ihno

/-! ## The text that writes a tree -/

/-- **Filling a text comes to what its tree stands for**, however deep its conditionals lie in
each other. Answers that are texts stand there as they are, with whatever braces they have;
placeholders that mean nothing stay, with their braces escaped; and there is such a text where all
values can be shown. -/
theorem fill?_source (scope : Scope) {tree : Tree} (h : tree.IsWellFormed) :
    fill? scope tree.source = tree.filled? scope ∧
      (∀ content answer, scope.get? (cutStyle (trim content)).1 = some (.text answer) →
        fillHole? scope content = some answer) ∧
      (∀ content, scope.get? (cutStyle (trim content)).1 = none →
        Formula.isComputation (cutStyle (trim content)).1 = false →
        fillHole? scope content = some (escaped content)) ∧
      ((∀ name value style, scope.get? name = some value → (show? style value).isSome = true) →
        (tree.filled? scope).isSome = true) :=
  ⟨fillPieces?_source scope h (by decide), fun _ _ => fillHole?_of_text,
    fun _ => fillHole?_of_nothing, fun hshow => tree.isSome_filled? hshow⟩

/-- Five closing braces meet, and an answer has braces of its own. -/
def nestedTree : Tree :=
  .text "So ".toList <|
    .oneWay "a".toList
        (.text "far ".toList <| .twoWay "b".toList .nil (.hole "p".toList .nil) .nil) <|
      .text ".".toList .nil

theorem fill?_nestedTree :
    nestedTree.source
        = "So \x7b\x7bIF a THEN far \x7b\x7bIF b THEN  ELSE \x7bp\x7d\x7d\x7d\x7d\x7d.".toList ∧
      nestedTree.IsWellFormed ∧
      fill? [("a".toList, .bool true), ("p".toList, .text "\x7ba\x7d".toList)] nestedTree.source
        = some "So far \x7ba\x7d.".toList :=
  have hwell : nestedTree.IsWellFormed := by decide +kernel
  ⟨by decide, hwell, (fill?_source _ hwell).1.trans (by decide +kernel)⟩

end Questionnaire.Template
