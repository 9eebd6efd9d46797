import Questionnaire.Proofs.Template.Filling
import Questionnaire.Report.Usage

/-!
# The parts of a text that count

The names of a text are counted by two searches of their own, which know nothing
of how blocks nest. In a text that writes a tree the one finds its conditions, all
of them and in order (`conditionsFrom_source`). The other finds whatever is filled
as a placeholder, of a tree or of any text (`exists_place_of_hole`,
`exists_place_of_piece`), unless another brace stands next to it
(`mem_placeholdersFrom`).
-/

namespace Questionnaire.Template

open Text

/-! ## What there is in a tree -/

namespace Tree

/-- The conditions of the conditionals in the tree. -/
def conditions : Tree → List Text
  | nil => []
  | text _ rest => rest.conditions
  | hole _ rest => rest.conditions
  | oneWay condition yes rest => condition :: (yes.conditions ++ rest.conditions)
  | twoWay condition yes no rest =>
    condition :: (yes.conditions ++ (no.conditions ++ rest.conditions))

/-- The insides of the placeholders in the tree. -/
def holes : Tree → List Text
  | nil => []
  | text _ rest => rest.holes
  | hole content rest => content :: rest.holes
  | oneWay _ yes rest => yes.holes ++ rest.holes
  | twoWay _ yes no rest => yes.holes ++ (no.holes ++ rest.holes)

/-! ## Blanks at the ends hold nothing -/

theorem conditions_trimStart (tree : Tree) : tree.trimStart.conditions = tree.conditions := by
  induction tree with
  | text t rest ih =>
      rw [trimStart]
      split
      · exact ih
      · rfl
  | _ => rfl

theorem holes_trimStart (tree : Tree) : tree.trimStart.holes = tree.holes := by
  induction tree with
  | text t rest ih =>
      rw [trimStart]
      split
      · exact ih
      · rfl
  | _ => rfl

/-- Where nothing but blanks is written, there is nothing. -/
theorem eq_nil_of_isBlankText {tree : Tree} (h : isBlankText tree.source = true) :
    tree.conditions = [] ∧ tree.holes = [] := by
  have hbrace : isBlank '\x7b' = false := by decide
  induction tree with
  | nil => exact ⟨rfl, rfl⟩
  | text t rest ih =>
      rw [source, isBlankText_append, Bool.and_eq_true] at h
      exact ih h.2
  | hole content rest _ => simp [source, written, isBlankText, hbrace] at h
  | oneWay condition yes rest _ _ => simp [source, block, isBlankText, hbrace] at h
  | twoWay condition yes no rest _ _ _ => simp [source, block, isBlankText, hbrace] at h

theorem conditions_trimEnd (tree : Tree) : tree.trimEnd.conditions = tree.conditions := by
  induction tree with
  | nil => rfl
  | text t rest ih =>
      rw [trimEnd]
      split
      · rename_i hblank
        exact (eq_nil_of_isBlankText hblank).1.symm
      · exact ih
  | hole content rest ih => exact ih
  | oneWay condition yes rest _ ih => simp [trimEnd, conditions, ih]
  | twoWay condition yes no rest _ _ ih => simp [trimEnd, conditions, ih]

theorem holes_trimEnd (tree : Tree) : tree.trimEnd.holes = tree.holes := by
  induction tree with
  | nil => rfl
  | text t rest ih =>
      rw [trimEnd]
      split
      · rename_i hblank
        exact (eq_nil_of_isBlankText hblank).2.symm
      · exact ih
  | hole content rest ih => simp [trimEnd, holes, ih]
  | oneWay condition yes rest _ ih => simp [trimEnd, holes, ih]
  | twoWay condition yes no rest _ _ ih => simp [trimEnd, holes, ih]

@[simp] theorem conditions_trimmed (tree : Tree) : tree.trimmed.conditions = tree.conditions := by
  rw [trimmed, conditions_trimEnd, conditions_trimStart]

@[simp] theorem holes_trimmed (tree : Tree) : tree.trimmed.holes = tree.holes := by
  rw [trimmed, holes_trimEnd, holes_trimStart]

/-- **A tree stands for the same** over two scopes that agree on its conditions and on what is
written for its placeholders. -/
theorem filled?_congr {scope other : Scope} {tree : Tree}
    (hconditions : ∀ c ∈ tree.conditions, Condition.evaluate c scope = Condition.evaluate c other)
    (hholes : ∀ content ∈ tree.holes, fillHole? scope content = fillHole? other content) :
    tree.filled? scope = tree.filled? other := by
  fun_induction tree.filled? scope with
  | case1 => rw [filled?]
  | case2 t rest ih => rw [filled?, ih hconditions hholes]
  | case3 content rest ih =>
      rw [filled?, ih hconditions fun c hc => hholes c (List.mem_cons_of_mem _ hc),
        hholes content List.mem_cons_self]
  | case4 condition yes rest ihyes ih =>
      rw [conditions, List.forall_mem_cons, List.forall_mem_append] at hconditions
      rw [holes, List.forall_mem_append] at hholes
      rw [filled?, ih hconditions.2.2 hholes.2, hconditions.1,
        ihyes (by simpa using hconditions.2.1) (by simpa using hholes.1)]
  | case5 condition yes no rest ihyes ihno ih =>
      rw [conditions, List.forall_mem_cons, List.forall_mem_append,
        List.forall_mem_append] at hconditions
      rw [holes, List.forall_mem_append, List.forall_mem_append] at hholes
      rw [filled?, ih hconditions.2.2.2 hholes.2.2, hconditions.1,
        ihyes (by simpa using hconditions.2.1) (by simpa using hholes.1),
        ihno (by simpa using hconditions.2.2.1) (by simpa using hholes.2.1)]

end Tree
end Questionnaire.Template

namespace Questionnaire.Report

open Text Formula Template

/-! ## The conditions are found -/

/-- Where nothing stands before the word, or it has no blank on a side, the search for THEN goes
on. -/
theorem cutThen?_skip {before rest : Text} {c : Char}
    (h : before ≠ [] → isBlank c = true → ∀ d tail,
      trimLeft (c :: rest) = "THEN".toList ++ d :: tail → isBlank d = false) :
    cutThen? before (c :: rest) = cutThen? (c :: before) rest := by
  rw [cutThen?]
  split
  · rename_i d tail hfound
    rw [drop_blanks] at hfound
    split at hfound
    · cases hfound
    · rename_i hne
      by_cases hc : isBlank c = true
      · rw [h (by simpa using hne) hc d tail (after?_eq_some.mp hfound), Bool.and_false]
        rfl
      · rw [Bool.not_eq_true] at hc
        rw [hc, Bool.false_and]
        rfl
  · rfl

/-- A word THEN with a blank on either side and something before it is found. -/
theorem cutThen?_found {before rest tail : Text} {c d : Char} (hne : before ≠ [])
    (hc : isBlank c = true) (hd : isBlank d = true)
    (h : trimLeft (c :: rest) = "THEN".toList ++ d :: tail) :
    cutThen? before (c :: rest) = some (before.reverse, tail) := by
  have hempty : before.isEmpty = false := by simpa using hne
  have hfound : after? "THEN".toList ((c :: rest).drop (blanks (c :: rest))) = some (d :: tail) := by
    rw [drop_blanks, h, after?_append]
  rw [cutThen?, hempty, if_neg Bool.false_ne_true, hfound]
  simp [hc, hd]

/-- Where no word THEN stands alone in a text, none is found in it. -/
theorem cutThen?_run {p v : Text} (hp : ¬ StandsAlone "THEN".toList p)
    (hlast : ∀ c, p.getLast? = some c → isBlank c = false)
    (hv : ∀ c, v.head? = some c → isBlank c = true) :
    cutThen? [] (p ++ v) = cutThen? p.reverse v := by
  -- The text is gone over from the left; what is done stands before what is left.
  have hgen : ∀ (rest done : Text), p = done ++ rest →
      cutThen? done.reverse (rest ++ v) = cutThen? p.reverse v := by
    intro rest
    induction rest with
    | nil =>
        intro done hsplit
        rw [hsplit, List.append_nil, List.nil_append]
    | cons c rest ih =>
        intro done hsplit
        rw [List.cons_append, cutThen?_skip, ← ih (done ++ [c]) (by simp [hsplit]),
          List.reverse_append]
        · rfl
        · intro _ hc d tail hfound
          rw [Bool.eq_false_iff]
          intro hd
          -- The word would stand alone in the text, between these blanks and what follows it.
          have hsolid : isBlankText (c :: rest) = false := by
            rw [isBlankText, List.all_eq_false]
            refine ⟨(c :: rest).getLast (by simp), List.getLast_mem _, ?_⟩
            rw [hlast _ (by rw [hsplit, List.getLast?_append, List.getLast?_eq_some_getLast]; rfl)]
            exact Bool.false_ne_true
          rw [← List.cons_append, trimLeft_append_of_not_blank hsolid] at hfound
          obtain ⟨after, hword, htail⟩ := append_of_word hfound fun e he hmem => by
            have hblank := hv e he
            rw [separates_then.isBlank hmem] at hblank
            cases hblank
          obtain ⟨lead, hlead, hblanks, hhead⟩ := trimLeft_spec (c :: rest)
          have hne : lead ≠ [] := by
            rintro rfl
            rw [hhead c (by rw [← List.nil_append (trimLeft _), ← hlead]; rfl)] at hc
            cases hc
          refine hp ⟨done ++ lead, after, ?_, ?_, ?_⟩
          · rw [hsplit, hlead, hword]
            simp
          · rw [getLast?_append_of_ne_nil _ hne]
            exact getLast?_all_of_isBlankText hblanks
          · cases after with
            | nil => rfl
            | cons e after =>
                obtain ⟨rfl, -⟩ := List.cons.inj htail
                simpa using hd
  simpa using hgen p [] rfl

/-- The word THEN ends the condition where it was written. -/
theorem cutThen?_condition {condition : Text} (h : IsCondition condition) (u : Text) :
    cutThen? [] (trimLeft condition ++ (" THEN ".toList ++ u)) = some (trim condition, u) := by
  obtain ⟨before, hbefore, hblank, -⟩ := trimLeft_spec condition
  obtain ⟨after, hafter, hblanks, hlast⟩ := trimRight_spec (trimLeft condition)
  have hstands : ¬ StandsAlone "THEN".toList (trim condition) := fun hmem => by
    apply h.standing
    rw [hbefore, hafter]
    exact (hmem.append_right hblanks).append_left hblank
  have hne : (trim condition).reverse ≠ [] := by
    rw [ne_eq, List.reverse_eq_nil_iff]
    exact trimRight_ne_nil (by rw [isBlankText_trimLeft, h.notBlank])
  -- The blanks at the end of the condition and the one before the word are one run.
  obtain ⟨c, rest, hspace⟩ := List.exists_cons_of_ne_nil (List.append_ne_nil_of_right_ne_nil after
    (List.cons_ne_nil ' ' []))
  have hrun : isBlankText (c :: rest) = true := by
    rw [← hspace, isBlankText_append, Bool.and_eq_true]
    exact ⟨hblanks, by decide⟩
  have hc : isBlank c = true := by
    rw [isBlankText, List.all_cons, Bool.and_eq_true] at hrun
    exact hrun.1
  have hword : trimLeft (c :: (rest ++ ("THEN".toList ++ ' ' :: u)))
      = "THEN".toList ++ ' ' :: u := by
    rw [← List.cons_append, trimLeft_append_of_blank hrun]
    exact trimLeft_eq_self_of_head fun d hd => by
      obtain rfl : 'T' = d := by simpa using hd
      decide
  have hbehind : after ++ (" THEN ".toList ++ u) = c :: (rest ++ ("THEN".toList ++ ' ' :: u)) := by
    rw [← List.cons_append, ← hspace]
    simp
  rw [hafter, ← trim, List.append_assoc, hbehind,
    cutThen?_run hstands (fun d hd => trim_last hd) fun d hd => by
      obtain rfl : c = d := by simpa using hd
      exact hc,
    cutThen?_found hne hc isBlank_space hword, List.reverse_reverse]

/-- The condition of a conditional is found with the opening of the conditional. -/
theorem conditionAt?_opening {condition : Text} (h : IsCondition condition) (u : Text) :
    conditionAt? ('\x7b' :: '\x7b' :: (opening condition ++ u))
      = some (trim condition, (opening condition).length + 2) := by
  have hstart : trimLeft (opening condition ++ u)
      = "IF".toList ++ ' ' :: (condition ++ (" THEN ".toList ++ u)) := by
    rw [trimLeft_eq_self_of_head]
    · simp [opening]
    · intro c hc
      obtain rfl : 'I' = c := by simpa [opening] using hc
      decide
  have hrest : trimLeft (' ' :: (condition ++ (" THEN ".toList ++ u)))
      = trimLeft condition ++ (" THEN ".toList ++ u) := by
    rw [← List.singleton_append, trimLeft_append_of_blank (by decide),
      trimLeft_append_of_not_blank h.notBlank]
  have hblanks : blanks (' ' :: (condition ++ (" THEN ".toList ++ u))) ≠ 0 :=
    blanks_ne_zero rfl
  have hwidth : ('\x7b' :: '\x7b' :: (opening condition ++ u)).length - u.length
      = (opening condition).length + 2 := by
    simp only [List.length_cons, List.length_append]
    omega
  rw [conditionAt?, show '\x7b' :: '\x7b' :: (opening condition ++ u)
    = ['\x7b', '\x7b'] ++ (opening condition ++ u) from rfl, after?_append, Option.bind_some,
    hstart, after?_append, Option.bind_some, if_neg hblanks, hrest, cutThen?_condition h]
  exact congrArg (fun width => some (trim condition, width)) hwidth

theorem conditionsFrom_skip (t u : Text) : conditionsFrom t.length (t ++ u) = conditionsFrom 0 u := by
  induction t with
  | nil => rfl
  | cons c t ih => exact ih

/-- No condition begins but with an opening pair of braces. -/
theorem conditionsFrom_cons {c : Char} {u : Text} (h : c = '\x7b' → u.head? ≠ some '\x7b') :
    conditionsFrom 0 (c :: u) = conditionsFrom 0 u := by
  have hnone : conditionAt? (c :: u) = none := by
    rw [conditionAt?, Option.bind_eq_none_iff]
    intro rest hrest
    obtain ⟨rfl, hu⟩ := List.cons.inj (after?_eq_some.mp hrest)
    exact absurd (by rw [hu]; rfl) (h rfl)
  rw [conditionsFrom, hnone]

theorem conditionsFrom_inside {t : Text} (h : t.all isInside = true) (u : Text) :
    conditionsFrom 0 (t ++ u) = conditionsFrom 0 u := by
  induction t with
  | nil => rfl
  | cons c t ih =>
      rw [List.all_cons, Bool.and_eq_true] at h
      rw [List.cons_append, conditionsFrom_cons fun hc => absurd hc (ne_of_isInside h.1).1, ih h.2]

theorem conditionsFrom_written {content : Text} (hne : content ≠ [])
    (h : content.all isInside = true) (u : Text) :
    conditionsFrom 0 (written content ++ u) = conditionsFrom 0 u := by
  have hopen : (content ++ '\x7d' :: u).head? ≠ some '\x7b' := by
    obtain ⟨c, content, rfl⟩ := List.exists_cons_of_ne_nil hne
    rw [List.all_cons, Bool.and_eq_true] at h
    simpa using (ne_of_isInside h.1).1
  rw [written, List.append_assoc, List.cons_append, List.singleton_append,
    conditionsFrom_cons fun _ => hopen, conditionsFrom_inside h, conditionsFrom_cons (by simp)]

/-- A conditional gives its condition, and the search goes on in its branches. -/
theorem conditionsFrom_opening {condition : Text} (h : IsCondition condition) (u : Text) :
    conditionsFrom 0 ('\x7b' :: '\x7b' :: (opening condition ++ u))
      = trim condition :: conditionsFrom 0 u := by
  have hskip := conditionsFrom_skip ('\x7b' :: opening condition) u
  rw [List.length_cons, List.cons_append] at hskip
  rw [conditionsFrom, conditionAt?_opening h]
  simp only [show (opening condition).length + 2 - 1 = (opening condition).length + 1 from rfl,
    hskip]

theorem conditionsFrom_closing (u : Text) :
    conditionsFrom 0 ('\x7d' :: '\x7d' :: u) = conditionsFrom 0 u := by
  rw [conditionsFrom_cons (by simp), conditionsFrom_cons (by simp)]

/-- **The conditions of a tree are found**, all of them and in order. -/
theorem conditionsFrom_source {tree : Tree} (h : tree.IsWellFormed) (u : Text) :
    conditionsFrom 0 (tree.source ++ u) = tree.conditions.map trim ++ conditionsFrom 0 u := by
  induction tree generalizing u with
  | nil => rfl
  | text t rest ih =>
      have hin : t.all isInside = true := List.all_eq_true.mpr fun c hc => (h.1 c hc).1
      rw [Tree.source, List.append_assoc, conditionsFrom_inside hin, ih h.2, Tree.conditions]
  | hole content rest ih =>
      rw [Tree.source, List.append_assoc, conditionsFrom_written h.1 h.2.1, ih h.2.2,
        Tree.conditions]
  | oneWay condition yes rest ihyes ih =>
      obtain ⟨hc, hyes, -, hrest⟩ := h
      have hsplit : (Tree.oneWay condition yes rest).source ++ u
          = '\x7b' :: '\x7b' :: (opening condition ++
              (yes.source ++ '\x7d' :: '\x7d' :: (rest.source ++ u))) := by
        simp [Tree.source, block]
      rw [hsplit, conditionsFrom_opening hc, ihyes hyes, conditionsFrom_closing, ih hrest]
      simp [Tree.conditions]
  | twoWay condition yes no rest ihyes ihno ih =>
      obtain ⟨hc, hyes, -, hno, hrest⟩ := h
      have hsplit : (Tree.twoWay condition yes no rest).source ++ u
          = '\x7b' :: '\x7b' :: (opening condition ++ (yes.source ++ (" ELSE ".toList ++
              (no.source ++ '\x7d' :: '\x7d' :: (rest.source ++ u))))) := by
        simp [Tree.source, block, choice]
      rw [hsplit, conditionsFrom_opening hc, ihyes hyes, conditionsFrom_inside (by decide),
        ihno hno, conditionsFrom_closing, ih hrest]
      simp [Tree.conditions]

/-! ## The placeholders are found -/

/-- A placeholder with the characters next to it. -/
structure Placeholder where
  /-- The character before it. -/
  before : Option Char
  /-- Its inside. -/
  content : Text
  /-- The character behind it. -/
  behind : Option Char
deriving DecidableEq, Repr

/-- Another brace stands next to the placeholder. -/
def Placeholder.touches (p : Placeholder) : Bool :=
  p.before = some '\x7b' || p.behind = some '\x7d'

/-- The placeholder that the character `c` opens behind the character `previous`. -/
def placeAt? (previous : Option Char) (c : Char) (rest : Text) : Option Placeholder :=
  if c = '\x7b' then
    (holeAt? rest).map fun content =>
      ⟨previous, content, (rest.drop (content.length + 1)).head?⟩
  else none

/-- What stands in single braces in a text behind the character `previous`. -/
def placesFrom (previous : Option Char) : Text → List Placeholder
  | [] => []
  | c :: rest => (placeAt? previous c rest).toList ++ placesFrom (some c) rest

theorem takeWhile_isInside {content : Text} (h : content.all isInside = true) (u : Text) :
    (content ++ '\x7d' :: u).takeWhile isInside = content := by
  rw [List.takeWhile_append_of_pos (List.all_eq_true.mp h)]
  simp [isInside]

theorem dropWhile_isInside {content : Text} (h : content.all isInside = true) (u : Text) :
    (content ++ '\x7d' :: u).dropWhile isInside = '\x7d' :: u := by
  rw [List.dropWhile_append_of_pos (List.all_eq_true.mp h)]
  simp [isInside]

theorem holeAt?_eq_some {t content : Text} : holeAt? t = some content ↔
    content ≠ [] ∧ content.all isInside = true ∧ ∃ more, t = content ++ '\x7d' :: more := by
  constructor
  · intro h
    rw [holeAt?] at h
    split at h
    · rename_i hfound
      cases h
      rw [Bool.and_eq_true, decide_eq_true_eq] at hfound
      obtain ⟨more, hmore⟩ := List.head?_eq_some_iff.mp hfound.2
      refine ⟨by simpa using hfound.1, by simp, more, ?_⟩
      rw [← hmore, List.takeWhile_append_dropWhile]
    · cases h
  · rintro ⟨hne, hin, more, rfl⟩
    simp [holeAt?, takeWhile_isInside hin, dropWhile_isInside hin, hne]

theorem placeAt?_eq_some {previous : Option Char} {c : Char} {rest : Text} {p : Placeholder} :
    placeAt? previous c rest = some p ↔ c = '\x7b' ∧ p.before = previous ∧ p.content ≠ [] ∧
      p.content.all isInside = true ∧
      ∃ more, rest = p.content ++ '\x7d' :: more ∧ p.behind = more.head? := by
  rw [placeAt?]
  split
  · rename_i hc
    rw [Option.map_eq_some_iff]
    constructor
    · rintro ⟨content, hcontent, rfl⟩
      obtain ⟨hne, hin, more, rfl⟩ := holeAt?_eq_some.mp hcontent
      exact ⟨hc, rfl, hne, hin, more, rfl, by simp [List.drop_append]⟩
    · rintro ⟨-, rfl, hne, hin, more, rfl, hbehind⟩
      refine ⟨p.content, holeAt?_eq_some.mpr ⟨hne, hin, more, rfl⟩, ?_⟩
      simp [List.drop_append, ← hbehind]
  · rename_i hc
    simp [hc]

theorem not_mem_take_of_placeholderAt? {t content : Text} (h : placeholderAt? t = some content) :
    '\x7b' ∉ t.take (content.length + 1) := by
  rw [placeholderAt?] at h
  split at h
  · rename_i rest hdrop
    split at h
    · cases h
    · cases h
      have hsplit : t = t.takeWhile isInside ++ '\x7d' :: rest := by
        rw [← hdrop, List.takeWhile_append_dropWhile]
      have hin : (t.takeWhile isInside).all isInside = true := by simp
      generalize t.takeWhile isInside = content at hsplit hin
      have htake : t.take (content.length + 1) = content ++ ['\x7d'] := by
        rw [hsplit, List.take_append, List.take_of_length_le (Nat.le_succ _)]
        simp
      rw [htake, List.mem_append, not_or]
      exact ⟨fun hmem => absurd (List.all_eq_true.mp hin _ hmem) (by decide), by simp⟩
  · cases h

/-- What stands in a text stands in it behind another text. -/
theorem mem_placesFrom_append {p : Placeholder} {previous : Option Char} {s t : Text}
    (h : p ∈ placesFrom (s.getLast?.or previous) t) : p ∈ placesFrom previous (s ++ t) := by
  induction s generalizing previous with
  | nil => exact h
  | cons c s ih =>
      rw [List.cons_append, placesFrom]
      refine List.mem_append_right _ (ih ?_)
      rw [List.getLast?_cons] at h
      cases hlast : s.getLast? <;> simpa [hlast] using h

/-- What is filled stands in single braces. -/
theorem exists_place_of_piece {content t : Text} {previous : Option Char} {skip : Nat}
    (h : .hole content ∈ piecesFrom previous skip t) :
    ∃ p ∈ placesFrom previous t, p.content = content := by
  induction t generalizing previous skip with
  | nil => cases h
  | cons c t ih =>
      have hrest : ∀ {skip}, .hole content ∈ piecesFrom (some c) skip t →
          ∃ p ∈ placesFrom previous (c :: t), p.content = content := by
        intro skip hmem
        obtain ⟨p, hp, hcontent⟩ := ih hmem
        exact ⟨p, List.mem_append_right _ hp, hcontent⟩
      cases skip with
      | succ skip => exact hrest h
      | zero =>
          rw [piecesFrom] at h
          split at h
          · rename_i inside hinside
            split at hinside
            · rename_i hopen
              rw [Bool.and_eq_true, decide_eq_true_eq] at hopen
              rcases List.mem_cons.mp h with heq | h
              · cases heq
                refine ⟨⟨previous, content, (t.drop (content.length + 1)).head?⟩,
                  List.mem_append_left _ ?_, rfl⟩
                rw [placeAt?, if_pos hopen.1, hinside]
                exact List.mem_singleton_self _
              · exact hrest h
            · cases hinside
          · rcases List.mem_cons.mp h with heq | h
            · cases heq
            · exact hrest h

/-- The placeholders of a tree are written in its text. -/
theorem written_of_mem_holes {tree : Tree} (h : tree.IsWellFormed) {content : Text}
    (hmem : content ∈ tree.holes) :
    content ≠ [] ∧ content.all isInside = true ∧ written content <:+: tree.source := by
  induction tree with
  | nil => cases hmem
  | text t rest ih =>
      obtain ⟨hne, hin, hwritten⟩ := ih h.2 hmem
      exact ⟨hne, hin, hwritten.trans (List.suffix_append t _).isInfix⟩
  | hole first rest ih =>
      rcases List.mem_cons.mp hmem with rfl | hmem
      · exact ⟨h.1, h.2.1, (List.prefix_append _ _).isInfix⟩
      · obtain ⟨hne, hin, hwritten⟩ := ih h.2.2 hmem
        exact ⟨hne, hin, hwritten.trans (List.suffix_append _ _).isInfix⟩
  | oneWay condition yes rest ihyes ih =>
      obtain ⟨-, hyes, -, hrest⟩ := h
      rcases List.mem_append.mp hmem with hmem | hmem
      · obtain ⟨hne, hin, hwritten⟩ := ihyes hyes hmem
        refine ⟨hne, hin, hwritten.trans ⟨'\x7b' :: '\x7b' :: opening condition,
          '\x7d' :: '\x7d' :: rest.source, ?_⟩⟩
        simp [Tree.source, block]
      · obtain ⟨hne, hin, hwritten⟩ := ih hrest hmem
        exact ⟨hne, hin, hwritten.trans (List.suffix_append _ _).isInfix⟩
  | twoWay condition yes no rest ihyes ihno ih =>
      obtain ⟨-, hyes, -, hno, hrest⟩ := h
      rcases List.mem_append.mp hmem with hmem | hmem
      · obtain ⟨hne, hin, hwritten⟩ := ihyes hyes hmem
        refine ⟨hne, hin, hwritten.trans ⟨'\x7b' :: '\x7b' :: opening condition,
          " ELSE ".toList ++ no.source ++ '\x7d' :: '\x7d' :: rest.source, ?_⟩⟩
        simp [Tree.source, block, choice]
      · rcases List.mem_append.mp hmem with hmem | hmem
        · obtain ⟨hne, hin, hwritten⟩ := ihno hno hmem
          refine ⟨hne, hin, hwritten.trans ⟨'\x7b' :: '\x7b' :: opening condition ++ yes.source ++
            " ELSE ".toList, '\x7d' :: '\x7d' :: rest.source, ?_⟩⟩
          simp [Tree.source, block, choice]
        · obtain ⟨hne, hin, hwritten⟩ := ih hrest hmem
          exact ⟨hne, hin, hwritten.trans (List.suffix_append _ _).isInfix⟩

/-- The placeholders of a tree stand in single braces. -/
theorem exists_place_of_hole {tree : Tree} (h : tree.IsWellFormed) {content : Text}
    (hmem : content ∈ tree.holes) : ∃ p ∈ placesFrom none tree.source, p.content = content := by
  obtain ⟨hne, hin, before, after, hsplit⟩ := written_of_mem_holes h hmem
  rw [← hsplit, List.append_assoc]
  refine ⟨⟨before.getLast?.or none, content, after.head?⟩, mem_placesFrom_append ?_, rfl⟩
  rw [written, List.append_assoc, List.cons_append, List.singleton_append, placesFrom]
  refine List.mem_append_left _ (Option.mem_toList.mpr (placeAt?_eq_some.mpr ?_))
  exact ⟨rfl, rfl, hne, hin, after, rfl, rfl⟩

/-- **A placeholder counts** unless another brace stands next to it. -/
theorem mem_placeholdersFrom {p : Placeholder} {previous : Option Char} {skip : Nat} {t : Text}
    (hskip : '\x7b' ∉ t.take skip) (h : p ∈ placesFrom previous t) (hp : p.touches = false) :
    p.content ∈ placeholdersFrom previous skip t := by
  induction t generalizing previous skip with
  | nil => cases h
  | cons c t ih =>
      rw [placesFrom, List.mem_append, Option.mem_toList] at h
      cases skip with
      | succ skip =>
          rw [List.take_succ_cons, List.mem_cons, not_or] at hskip
          rcases h with h | h
          · exact absurd (placeAt?_eq_some.mp h).1.symm hskip.1
          · exact ih hskip.2 h
      | zero =>
          rw [placeholdersFrom]
          rcases h with h | h
          · -- It begins here, and nothing next to it hides it.
            obtain ⟨rfl, hbefore, hne, hin, more, rfl, hbehind⟩ := placeAt?_eq_some.mp h
            rw [Placeholder.touches, Bool.or_eq_false_iff, decide_eq_false_iff_not,
              decide_eq_false_iff_not, hbefore, hbehind] at hp
            have hfound : placeholderAt? (p.content ++ '\x7d' :: more) = some p.content := by
              simp [placeholderAt?, takeWhile_isInside hin, dropWhile_isInside hin, hne, hp.2]
            simp [hp.1, hfound]
          · -- It begins later: what is passed over on the way has no opening brace.
            split
            · rename_i content hcontent
              split at hcontent
              · refine List.mem_cons_of_mem _ (ih ?_ h)
                exact not_mem_take_of_placeholderAt? hcontent
              · cases hcontent
            · exact ih List.not_mem_nil h

end Questionnaire.Report
