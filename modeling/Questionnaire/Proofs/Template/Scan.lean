import Questionnaire.Proofs.Template.Tree

/-!
# Scanning texts with balanced braces

Three scanners go over a text with braces: one looks for the next opening pair,
one for the pair that closes a block, and one for a word outside all blocks.
Only the second keeps account of single braces. In a text where braces stand for
placeholders and blocks only (`Balanced`) they agree nevertheless, also where
several closing braces meet: what they find is what the parts of the text are.
-/

namespace Questionnaire.Template

open Text

/-! ## Balanced texts -/

/-- A text whose braces are those of placeholders and of blocks. -/
inductive Balanced : Text → Prop where
  | nil : Balanced []
  | plain {c : Char} {t : Text} (hc : isInside c = true) (rest : Balanced t) : Balanced (c :: t)
  | hole {content t : Text} (hne : content ≠ []) (hin : content.all isInside = true)
      (rest : Balanced t) : Balanced (written content ++ t)
  | block {inside t : Text} (hin : Balanced inside) (rest : Balanced t) :
      Balanced (block inside ++ t)

theorem ne_of_isInside {c : Char} (h : isInside c = true) : c ≠ '\x7b' ∧ c ≠ '\x7d' := by
  simpa [isInside] using h

namespace Balanced

/-- A text without braces. -/
theorem of_inside {t : Text} (h : t.all isInside = true) : Balanced t := by
  induction t with
  | nil => exact .nil
  | cons c t ih =>
      rw [List.all_cons, Bool.and_eq_true] at h
      exact .plain h.1 (ih h.2)

theorem append {t u : Text} (ht : Balanced t) (hu : Balanced u) : Balanced (t ++ u) := by
  induction ht with
  | nil => exact hu
  | plain hc _ ih => exact .plain hc ih
  | hole hne hin _ ih =>
      rw [List.append_assoc]
      exact .hole hne hin ih
  | block hin _ _ ih =>
      rw [List.append_assoc]
      exact .block hin ih

/-- No balanced text begins with a closing brace. -/
theorem head?_ne {t : Text} (h : Balanced t) : t.head? ≠ some '\x7d' := by
  cases h with
  | nil => simp
  | plain hc _ => simpa using (ne_of_isInside hc).2
  | hole _ _ _ => simp [written]
  | block _ _ => simp [Template.block]

theorem head?_append_ne {t : Text} (h : Balanced t) (hne : t ≠ []) (u : Text) :
    (t ++ u).head? ≠ some '\x7d' := by
  obtain ⟨c, t, rfl⟩ := List.exists_cons_of_ne_nil hne
  simpa using h.head?_ne

end Balanced

/-! ## What trees write -/

theorem IsCondition.balanced {condition : Text} (h : IsCondition condition) :
    Balanced (opening condition) :=
  ((Balanced.of_inside (by decide)).append (.of_inside h.inside)).append (.of_inside (by decide))

theorem balanced_choice {condition yes no : Text} (h : IsCondition condition)
    (hyes : Balanced yes) (hno : Balanced no) : Balanced (choice condition yes no) :=
  ((h.balanced.append hyes).append (.of_inside (by decide))).append hno

/-- What a well-formed tree writes is balanced. -/
theorem Tree.IsWellFormed.balanced {tree : Tree} (h : tree.IsWellFormed) :
    Balanced tree.source := by
  induction tree with
  | nil => exact .nil
  | text t rest ih =>
      exact (Balanced.of_inside (List.all_eq_true.mpr fun c hc => (h.1 c hc).1)).append (ih h.2)
  | hole content rest ih => exact .hole h.1 h.2.1 (ih h.2.2)
  | oneWay condition yes rest ihyes ih =>
      exact .block (h.1.balanced.append (ihyes h.2.1)) (ih h.2.2.2)
  | twoWay condition yes no rest ihyes ihno ih =>
      exact .block (balanced_choice h.1 (ihyes h.2.1) (ihno h.2.2.2.1)) (ih h.2.2.2.2)

/-! ## The pair that closes a block -/

theorem closingFrom_inside {t : Text} (h : t.all isInside = true) (depth : Int)
    (single passed : Nat) (u : Text) :
    closingFrom depth single passed (t ++ u) = closingFrom depth single (passed + t.length) u := by
  induction t generalizing passed with
  | nil => rfl
  | cons c t ih =>
      rw [List.all_cons, Bool.and_eq_true] at h
      obtain ⟨hopen, hclose⟩ := ne_of_isInside h.1
      rw [List.cons_append, closingFrom]
      · rw [ih h.2, List.length_cons]
        congr 1
        omega
      all_goals simp_all

/-- A single brace that is closed again, and two closing braces behind it or not, are passed. -/
theorem closingFrom_written {content : Text} (hne : content ≠ [])
    (h : content.all isInside = true) (depth : Int) (passed : Nat) (u : Text) :
    closingFrom depth 0 passed (written content ++ u)
      = closingFrom depth 0 (passed + (written content).length) u := by
  have hopen : closingFrom depth 0 passed (written content ++ u)
      = closingFrom depth 1 (passed + 1) (content ++ '\x7d' :: u) := by
    obtain ⟨c, content, rfl⟩ := List.exists_cons_of_ne_nil hne
    rw [List.all_cons, Bool.and_eq_true] at h
    obtain ⟨hc, _⟩ := ne_of_isInside h.1
    simp [written, closingFrom, hc]
  have hclose : ∀ n, closingFrom depth 1 n ('\x7d' :: u) = closingFrom depth 0 (n + 1) u := by
    intro n
    rcases u with _ | ⟨d, u⟩
    · rfl
    · by_cases hd : d = '\x7d'
      · subst hd
        simp [closingFrom]
      · simp [closingFrom, hd]
  rw [hopen, closingFrom_inside h, hclose]
  congr 1
  simp only [written, List.length_append, List.length_cons, List.length_nil]
  omega

/-- The search for a closing pair goes over a balanced text, in which every pair that is opened
is closed. -/
theorem closingFrom_balanced {t : Text} (h : Balanced t) {depth : Int} (hdepth : 1 ≤ depth)
    (passed : Nat) (u : Text) :
    closingFrom depth 0 passed (t ++ u) = closingFrom depth 0 (passed + t.length) u := by
  induction h generalizing depth passed u with
  | nil => rfl
  | @plain c t hc _ ih =>
      have hone : closingFrom depth 0 passed (c :: (t ++ u))
          = closingFrom depth 0 (passed + 1) (t ++ u) :=
        closingFrom_inside (t := [c]) (by simpa using hc) depth 0 passed (t ++ u)
      rw [List.cons_append, hone, ih hdepth, List.length_cons, Nat.add_assoc, Nat.add_comm 1]
  | @hole content t hne hin _ ih =>
      rw [List.append_assoc, closingFrom_written hne hin, ih hdepth, List.length_append,
        Nat.add_assoc]
  | @block inside t _ _ ihin ih =>
      have hdeeper : ¬ depth + 1 = 1 := by omega
      calc closingFrom depth 0 passed (Template.block inside ++ t ++ u)
          = closingFrom (depth + 1) 0 (passed + 2)
              (inside ++ '\x7d' :: '\x7d' :: (t ++ u)) := by
            simp [Template.block, closingFrom]
        _ = closingFrom (depth + 1) 0 (passed + 2 + inside.length)
              ('\x7d' :: '\x7d' :: (t ++ u)) := ihin (by omega) _ _
        _ = closingFrom depth 0 (passed + 2 + inside.length + 2) (t ++ u) := by
            simp [closingFrom, hdeeper]
        _ = closingFrom depth 0 (passed + (Template.block inside ++ t).length) u := by
            rw [ih hdepth]
            congr 1
            simp only [Template.block, List.length_append, List.length_cons, List.length_nil]
            omega

/-- **A block is closed behind its inside.** -/
theorem closingFrom_block {inside : Text} (h : Balanced inside) (u : Text) :
    closingFrom 1 0 0 (inside ++ '\x7d' :: '\x7d' :: u) = some inside.length := by
  rw [closingFrom_balanced h (Int.le_refl 1)]
  simp [closingFrom]

/-! ## Texts without pairs -/

/-- No brace in the text, which `u` follows, is the first of a pair. -/
def Unpaired (u : Text) : Text → Prop
  | [] => True
  | c :: t => (c = '\x7b' ∨ c = '\x7d' → (t ++ u).head? ≠ some c) ∧ Unpaired u t

theorem unpaired_of_inside {t : Text} (h : t.all isInside = true) (u : Text) : Unpaired u t := by
  induction t with
  | nil => trivial
  | cons c t ih =>
      rw [List.all_cons, Bool.and_eq_true] at h
      obtain ⟨hopen, hclose⟩ := ne_of_isInside h.1
      exact ⟨fun hc => absurd hc (by simp [hopen, hclose]), ih h.2⟩

theorem unpaired_append {t v u : Text} (ht : Unpaired (v ++ u) t) (hv : Unpaired u v) :
    Unpaired u (t ++ v) := by
  induction t with
  | nil => exact hv
  | cons c t ih => exact ⟨by simpa using ht.1, ih ht.2⟩

/-- The opening brace of a placeholder and what stands in it. -/
theorem unpaired_open {content : Text} (hne : content ≠ []) (h : content.all isInside = true)
    (u : Text) : Unpaired u ('\x7b' :: content) := by
  refine ⟨fun _ => ?_, unpaired_of_inside h u⟩
  obtain ⟨c, content, rfl⟩ := List.exists_cons_of_ne_nil hne
  rw [List.all_cons, Bool.and_eq_true] at h
  simpa using (ne_of_isInside h.1).1

theorem unpaired_written {content : Text} (hne : content ≠ []) (h : content.all isInside = true)
    {u : Text} (hu : u.head? ≠ some '\x7d') : Unpaired u (written content) :=
  unpaired_append (unpaired_open hne h _) ⟨fun _ => by simpa using hu, trivial⟩

/-! ## Words outside blocks -/

/-- A word that separates the parts of a conditional: of characters that are neither braces nor
blanks. -/
structure Separates (word : Text) : Prop where
  /-- There is a word. -/
  ne_nil : word ≠ []
  /-- It has no braces. -/
  inside : word.all isInside = true
  /-- It has no blanks. -/
  notBlank : word.any isBlank = false

variable {word : Text}

theorem Separates.isInside (hw : Separates word) {c : Char} (hc : c ∈ word) :
    isInside c = true :=
  List.all_eq_true.mp hw.inside c hc

theorem Separates.isBlank (hw : Separates word) {c : Char} (hc : c ∈ word) :
    isBlank c = false := by
  simpa using List.any_eq_false.mp hw.notBlank c hc

/-- A text with no word at its places, after `before` and in front of `u`. -/
def Quiet (word u : Text) (before : Text) : Text → Prop
  | [] => True
  | c :: t => wordAlone? word before (c :: t ++ u) = none ∧ Quiet word u (c :: before) t

theorem wordAlone?_of_brace (hw : Separates word) {c : Char} (hc : isInside c = false)
    (before u : Text) : wordAlone? word before (c :: u) = none := by
  obtain ⟨d, word, rfl⟩ := List.exists_cons_of_ne_nil hw.ne_nil
  have hd : d ≠ c := by
    rintro rfl
    simp [hw.isInside List.mem_cons_self] at hc
  simp [wordAlone?, after?, hd]

/-- Where no pair begins and no word is found, the search for a word goes on. -/
theorem cutWordFrom_run {t u before : Text} {depth : Int} (hpair : Unpaired u t)
    (hquiet : depth = 0 → Quiet word u before t) :
    cutWordFrom word depth before (t ++ u) = cutWordFrom word depth (t.reverse ++ before) u := by
  induction t generalizing before with
  | nil => rfl
  | cons c t ih =>
      have hnone : (if depth = 0 then wordAlone? word before (c :: (t ++ u)) else none) = none := by
        split
        · exact (hquiet ‹_›).1
        · rfl
      rw [List.reverse_cons, List.append_assoc, List.singleton_append,
        ← ih hpair.2 fun hzero => (hquiet hzero).2, List.cons_append, cutWordFrom]
      · simp only [hnone]
      · rintro more rfl hmore
        exact hpair.1 (.inl rfl) (by simp [hmore])
      · rintro more rfl hmore
        exact hpair.1 (.inr rfl) (by simp [hmore])

/-- Pairs of closing braces. -/
def closers (n : Nat) : Text := List.replicate (2 * n) '\x7d'

theorem closers_succ (n : Nat) : closers (n + 1) = '\x7d' :: '\x7d' :: closers n := by
  simp [closers, Nat.mul_add, List.replicate_succ]

theorem closers_one : closers 1 = ['\x7d', '\x7d'] := rfl

theorem cons_closers (n : Nat) : '\x7d' :: closers n = closers n ++ ['\x7d'] := by
  rw [closers, ← List.replicate_succ, ← List.replicate_succ']

theorem closers_append_cons (n : Nat) (t : Text) :
    closers n ++ '\x7d' :: t = '\x7d' :: (closers n ++ t) := by
  rw [List.append_cons, ← cons_closers, List.cons_append]

/-- Every pair of closing braces leads one level up. -/
theorem cutWordFrom_closers (n : Nat) (depth : Int) (before u : Text) :
    cutWordFrom word depth before (closers n ++ u)
      = cutWordFrom word (depth - n) (closers n ++ before) u := by
  induction n generalizing depth before with
  | zero => simp [closers]
  | succ n ih =>
      have hstep : cutWordFrom word depth before (closers (n + 1) ++ u)
          = cutWordFrom word (depth - 1) ('\x7d' :: '\x7d' :: before) (closers n ++ u) := by
        simp [closers_succ, cutWordFrom]
      rw [hstep, ih, closers_append_cons, closers_append_cons, closers_succ]
      congr 1
      omega

/-- One closing brace more, wherever the pairs begin, is passed. -/
theorem cutWordFrom_cons_closers (hw : Separates word) (n : Nat) (depth : Int) (before : Text)
    {u : Text} (hu : u.head? ≠ some '\x7d') :
    cutWordFrom word depth before ('\x7d' :: (closers n ++ u))
      = cutWordFrom word (depth - n) (closers n ++ '\x7d' :: before) u := by
  have hlast : cutWordFrom word (depth - n) (closers n ++ before) (['\x7d'] ++ u)
      = cutWordFrom word (depth - n) (['\x7d'].reverse ++ (closers n ++ before)) u :=
    cutWordFrom_run ⟨fun _ => by simpa using hu, trivial⟩
      fun _ => ⟨wordAlone?_of_brace hw (by decide) _ _, trivial⟩
  rw [← closers_append_cons, cutWordFrom_closers, ← List.singleton_append, hlast,
    closers_append_cons]
  rfl

/-- Inside a block, with as many pairs behind it as it lies deep or fewer, the search for a word
goes over a balanced text. The pairs may begin one brace early, with that of a placeholder. -/
theorem cutWordFrom_balanced (hw : Separates word) {t : Text} (h : Balanced t) {n : Nat}
    {depth : Int} (hn : n ≤ depth) (hdepth : 1 ≤ depth) (before : Text) {u : Text}
    (hu : u.head? ≠ some '\x7d') :
    cutWordFrom word depth before (t ++ (closers n ++ u))
      = cutWordFrom word (depth - n) (closers n ++ (t.reverse ++ before)) u := by
  induction h generalizing n depth before u with
  | nil => exact cutWordFrom_closers n depth before u
  | @plain c t hc _ ih =>
      have hone : Unpaired (t ++ (closers n ++ u)) [c] :=
        unpaired_of_inside (by simpa using hc) _
      rw [List.cons_append, ← List.singleton_append, cutWordFrom_run hone (by omega),
        ih hn hdepth _ hu]
      simp
  | @hole content t hne hin ht ih =>
      by_cases hnil : t = []
      · -- The closing brace of the placeholder and the pairs behind it are one run.
        subst hnil
        have hsplit : written content ++ [] ++ (closers n ++ u)
            = '\x7b' :: content ++ '\x7d' :: (closers n ++ u) := by simp [written]
        rw [hsplit, cutWordFrom_run (unpaired_open hne hin _) (by omega),
          cutWordFrom_cons_closers hw n depth _ hu]
        simp [written]
      · have hhead := ht.head?_append_ne hnil (closers n ++ u)
        rw [List.append_assoc, cutWordFrom_run (unpaired_written hne hin hhead) (by omega),
          ih hn hdepth _ hu]
        simp
  | @block inside t hin ht ihin ih =>
      have hopen : ∀ v, cutWordFrom word depth before (Template.block inside ++ v)
          = cutWordFrom word (depth + 1) ('\x7b' :: '\x7b' :: before)
              (inside ++ (closers 1 ++ v)) := by
        intro v
        simp [Template.block, cutWordFrom, closers_one]
      by_cases hnil : t = []
      · subst hnil
        have hsplit : closers 1 ++ (closers n ++ u) = closers (n + 1) ++ u := by
          rw [closers_succ n, closers_one]
          rfl
        rw [List.append_nil, hopen, hsplit, ihin (by omega) (by omega) _ hu]
        have hdepth' : depth + 1 - ((n + 1 : Nat) : Int) = depth - n := by omega
        rw [hdepth']
        simp [Template.block, closers_succ, closers_append_cons]
      · have hhead := ht.head?_append_ne hnil (closers n ++ u)
        rw [List.append_assoc, hopen, ihin (by omega) (by omega) _ hhead]
        have hdepth' : depth + 1 - (1 : Nat) = depth := by omega
        rw [hdepth', ih hn hdepth _ hu]
        simp [Template.block, closers_one]

/-- **The search for a word goes over a block.** -/
theorem cutWordFrom_block (hw : Separates word) {inside : Text} (h : Balanced inside)
    (before : Text) {u : Text} (hu : u.head? ≠ some '\x7d') :
    cutWordFrom word 0 before (block inside ++ u)
      = cutWordFrom word 0 ((block inside).reverse ++ before) u := by
  have hopen : cutWordFrom word 0 before (block inside ++ u)
      = cutWordFrom word 1 ('\x7b' :: '\x7b' :: before) (inside ++ (closers 1 ++ u)) := by
    simp [block, cutWordFrom, closers_one]
  rw [hopen, cutWordFrom_balanced hw h (by omega) (by omega) _ hu]
  simp [block, closers_one]

end Questionnaire.Template
