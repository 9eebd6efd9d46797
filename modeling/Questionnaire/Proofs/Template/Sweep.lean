import Questionnaire.Proofs.Template.Filling

/-!
# Settling a text in place

Blocks are settled one after the other in a text that changes under way: a pass
looks for the next block in the whole text, puts what it yields in its place,
and the search goes on there (`Sweep.next?`). Any text will do, also one whose
braces do not match. Every pass takes braces away (`Sweep.braces_of_next?`), and
what stands before the block is never changed again (`Sweep.take_passes`). So
the passes end, and with the text that `settle` gives (`Sweep.passes_settle`),
which never looks back.
-/

namespace Questionnaire.Template

open Text

variable {choose : Text → Bool} {t : Text}

/-! ## Where a block is opened and closed -/

/-- What stands before a pair that is found, the pair and what follows are the text. -/
theorem cutOpening?_eq_some {before : Text} {cut : Text × Text}
    (h : cutOpening? before t = some cut) :
    before.reverse ++ t = cut.1 ++ '\x7b' :: '\x7b' :: cut.2 := by
  fun_induction cutOpening? before t with
  | case1 => cases h
  | case2 => cases h; rfl
  | case3 before c rest hpair ih => simpa using ih h

/-- A closing pair is found where one stands. -/
theorem closingFrom_eq_some {depth : Int} {single passed final : Nat}
    (h : closingFrom depth single passed t = some final) :
    ∃ inside rest, t = inside ++ '\x7d' :: '\x7d' :: rest ∧ final = passed + inside.length := by
  -- What is passed over stands in front of the rest, in which the pair is found.
  have hpass : ∀ (front : Text) {u : Text} {k n : Nat}, n = k + front.length →
      (∃ inside rest, u = inside ++ '\x7d' :: '\x7d' :: rest ∧ final = n + inside.length) →
      ∃ inside rest, front ++ u = inside ++ '\x7d' :: '\x7d' :: rest ∧
        final = k + inside.length := by
    rintro front u k n rfl ⟨inside, rest, rfl, rfl⟩
    exact ⟨front ++ inside, rest, by simp, by rw [List.length_append, Nat.add_assoc]⟩
  fun_induction closingFrom depth single passed t with
  | case1 => cases h
  | case2 depth single passed more ih => exact hpass ['\x7b', '\x7b'] rfl (ih h)
  | case3 depth single passed more hmore ih => exact hpass ['\x7b'] rfl (ih h)
  | case4 passed more =>
      cases h
      exact ⟨[], more, rfl, rfl⟩
  | case5 depth passed more hdepth ih => exact hpass ['\x7d', '\x7d'] rfl (ih h)
  | case6 depth single passed more hsingle ih => exact hpass ['\x7d'] rfl (ih h)
  | case7 depth single passed more hmore ih => exact hpass ['\x7d'] rfl (ih h)
  | case8 depth single passed c more _ _ _ _ ih => exact hpass [c] rfl (ih h)

theorem closingFrom_add (depth : Int) (single passed more : Nat) (t : Text) :
    closingFrom depth single (more + passed) t
      = (closingFrom depth single passed t).map (more + ·) := by
  fun_induction closingFrom depth single passed t <;>
    simp_all [closingFrom, Nat.add_assoc]

/-- The pair that closes a block is looked for behind the pair that opens it. -/
theorem closing?_append (front more : Text) :
    closing? (front ++ '\x7b' :: '\x7b' :: more) front.length
      = (closingFrom 1 0 0 more).map (front.length + 2 + ·) := by
  rw [closing?, List.drop_left, closingFrom, ← closingFrom_add]
  rfl

/-- **A block that is closed** is all that stands between its two pairs. -/
theorem closing?_eq_some {start final : Nat} (hopen : "\x7b\x7b".toList <+: t.drop start)
    (h : closing? t start = some final) : ∃ front inside rest, t = front ++ block inside ++ rest ∧
      start = front.length ∧ final = start + 2 + inside.length := by
  obtain ⟨more, hmore⟩ := hopen
  have ht : t = t.take start ++ '\x7b' :: '\x7b' :: more := by
    conv_lhs => rw [← List.take_append_drop start t, ← hmore]
    rfl
  have hlength : (t.take start).length = start := by
    have hpair : 0 < (t.drop start).length := by
      rw [← hmore]
      exact Nat.zero_lt_succ _
    rw [List.length_drop] at hpair
    rw [List.length_take]
    omega
  have hfrom := closing?_append (t.take start) more
  rw [← ht, hlength, h] at hfrom
  obtain ⟨size, hsize, hfinal⟩ := Option.map_eq_some_iff.mp hfrom.symm
  obtain ⟨inside, rest, rfl, rfl⟩ := closingFrom_eq_some hsize
  refine ⟨t.take start, inside, rest, ?_, hlength.symm, by omega⟩
  conv_lhs => rw [ht]
  simp [block]

/-- Two closing braces stand where a block is closed, behind its opening pair. -/
theorem closing_pair {start final : Nat} (hopen : "\x7b\x7b".toList <+: t.drop start)
    (h : closing? t start = some final) :
    start + 2 ≤ final ∧ "\x7d\x7d".toList <+: t.drop final := by
  obtain ⟨front, inside, rest, rfl, rfl, rfl⟩ := closing?_eq_some hopen h
  refine ⟨Nat.le_add_right _ _, rest, ?_⟩
  have hsplit : front ++ block inside ++ rest
      = (front ++ '\x7b' :: '\x7b' :: inside) ++ ("\x7d\x7d".toList ++ rest) := by simp [block]
  rw [hsplit]
  exact (List.drop_left' (by simp; omega)).symm

/-! ## What a block yields -/

/-- What stands before a word that is found, the word and what follows are the text. -/
theorem cutWordFrom_eq_some {word before : Text} {depth : Int} {cut : Text × Text}
    (h : cutWordFrom word depth before t = some cut) :
    before.reverse ++ t = cut.1 ++ word ++ cut.2 := by
  fun_induction cutWordFrom word depth before t with
  | case1 => cases h
  | case2 depth before more ih => simpa using ih h
  | case3 depth before more ih => simpa using ih h
  | case4 depth before c more hopen hclose tail hfound =>
      cases h
      split at hfound
      · rw [(wordAlone?_eq_some.mp hfound).2.1, List.append_assoc]
      · cases hfound
  | case5 depth before c more hopen hclose hnone ih => simpa using ih h

theorem isInfix_of_cutWord? {word : Text} {cut : Text × Text} (h : cutWord? word t = some cut) :
    cut.1 <:+: t ∧ cut.2 <:+: t := by
  have ht : t = cut.1 ++ word ++ cut.2 := cutWordFrom_eq_some h
  exact ⟨⟨[], word ++ cut.2, by simp [ht]⟩, ⟨cut.1 ++ word, [], by simp [ht]⟩⟩

/-- The branch that is chosen. -/
def Branches.chosen (choose : Text → Bool) (branches : Branches) : Text :=
  if choose branches.condition then branches.yes else branches.no

/-- The branch that is chosen stands in the conditional. -/
theorem Branches.isInfix_chosen {branches : Branches} (h : Branches.ofText? t = some branches) :
    branches.chosen choose <:+: t := by
  have hblanks : ∀ u : Text, trimLeft u <:+: u := fun u => (List.dropWhile_suffix _).isInfix
  rw [Branches.ofText?] at h
  obtain ⟨rest, hrest, h⟩ := Option.bind_eq_some_iff.mp h
  have hin : rest <:+: t := by
    refine List.IsInfix.trans ?_ (hblanks t)
    rw [after?_eq_some.mp hrest]
    exact (List.suffix_append _ _).isInfix
  split at h
  · cases h
  obtain ⟨found, hfound, h⟩ := Option.bind_eq_some_iff.mp h
  have hbehind : found.2 <:+: t := ((isInfix_of_cutWord? hfound).2.trans (hblanks rest)).trans hin
  split at h
  · cases h
  have hbranches : branches.yes <:+: t ∧ branches.no <:+: t := by
    split at h
    · cases h
      exact ⟨(isInfix_trim _).trans hbehind, List.nil_infix⟩
    · rename_i both hboth
      obtain ⟨hyes, hno⟩ := isInfix_of_cutWord? hboth
      cases h
      exact ⟨((isInfix_trim _).trans hyes).trans hbehind, ((isInfix_trim _).trans hno).trans hbehind⟩
  rw [chosen]
  split
  · exact hbranches.1
  · exact hbranches.2

/-- What is put in the place of a block, and how many characters of it are finished: a conditional
yields the branch that is chosen, which may hold blocks itself, and any other block its inside in
single braces, of which the first opens nothing more. -/
def yields (choose : Text → Bool) (inside : Text) : Text × Nat :=
  match Branches.ofText? inside with
  | none => (written inside, 1)
  | some branches => (branches.chosen choose, 0)

theorem finished_le_yields (choose : Text → Bool) (inside : Text) :
    (yields choose inside).2 ≤ (yields choose inside).1.length := by
  rw [yields]
  cases Branches.ofText? inside with
  | none => simp [written]
  | some branches => exact Nat.zero_le _

/-- The number of braces in a text. -/
def braces (t : Text) : Nat := t.countP fun c => !isInside c

@[simp] theorem braces_append (t u : Text) : braces (t ++ u) = braces t + braces u :=
  List.countP_append

theorem braces_block (inside : Text) : braces (block inside) = braces inside + 4 := by
  simp [block, braces, isInside]

theorem braces_written (inside : Text) : braces (written inside) = braces inside + 2 := by
  simp [written, braces, isInside]

/-- **A block yields fewer braces** than it has. -/
theorem braces_yields (choose : Text → Bool) (inside : Text) :
    braces (yields choose inside).1 + 2 ≤ braces (block inside) := by
  rw [yields, braces_block]
  cases hbranches : Branches.ofText? inside with
  | none => simp [braces_written]
  | some branches =>
      have hle : braces (branches.chosen choose) ≤ braces inside :=
        (Branches.isInfix_chosen hbranches).sublist.countP_le
      simp only
      omega

/-- One block settled in what is still to be looked at, by what it yields. -/
theorem settleOne?_eq (choose : Text → Bool) (t : Text) :
    settleOne? choose t = (cutOpening? [] t).bind fun cut =>
      (closingFrom 1 0 0 cut.2).map fun size =>
        let yielded := yields choose (cut.2.take size)
        (cut.1 ++ yielded.1.take yielded.2,
          yielded.1.drop yielded.2 ++ cut.2.drop (size + 2)) := by
  rw [settleOne?]
  refine Option.bind_congr fun cut _ => Option.map_congr fun size _ => ?_
  cases hbranches : Branches.ofText? (cut.2.take size) with
  | none => simp [yields, hbranches, written]
  | some branches => simp [yields, hbranches, Branches.chosen]

/-! ## Passes over the whole text -/

/-- A text as it stands after some passes, and the place from which the next block is looked
for. -/
structure Sweep where
  /-- The text. -/
  text : Text
  /-- The place in it. -/
  place : Nat
deriving DecidableEq, Repr

namespace Sweep

variable {s next : Sweep}

/-- The place of the next opening pair. -/
def opening? (s : Sweep) : Option Nat :=
  (cutOpening? [] (s.text.drop s.place)).map fun cut => s.place + cut.1.length

/-- The text with what the block yields in the place of the block, whose pairs stand at `start`
and at `final`. -/
def splice (choose : Text → Bool) (s : Sweep) (start final : Nat) : Sweep :=
  let yielded := yields choose ((s.text.take final).drop (start + 2))
  ⟨s.text.take start ++ yielded.1 ++ s.text.drop (final + 2), start + yielded.2⟩

/-- One pass. There is none if no block is opened, or if the next one is not closed. -/
def next? (choose : Text → Bool) (s : Sweep) : Option Sweep :=
  s.opening?.bind fun start => (closing? s.text start).map (s.splice choose start)

/-- As many passes as there are, up to a number of them. -/
def passes (choose : Text → Bool) : Nat → Sweep → Sweep
  | 0, s => s
  | n + 1, s =>
    match s.next? choose with
    | none => s
    | some next => passes choose n next

theorem splice_block (choose : Text → Bool) (front inside rest : Text) (place : Nat) :
    splice choose ⟨front ++ block inside ++ rest, place⟩ front.length
        (front.length + 2 + inside.length)
      = ⟨front ++ (yields choose inside).1 ++ rest,
          front.length + (yields choose inside).2⟩ := by
  have hfront : (front ++ block inside ++ rest).take front.length = front := by
    rw [List.append_assoc, List.take_left]
  have hinside : ((front ++ block inside ++ rest).take (front.length + 2 + inside.length)).drop
      (front.length + 2) = inside := by
    have hsplit : front ++ block inside ++ rest
        = (front ++ ['\x7b', '\x7b']) ++ inside ++ ('\x7d' :: '\x7d' :: rest) := by simp [block]
    have hlength : front.length + 2 + inside.length
        = ((front ++ ['\x7b', '\x7b']) ++ inside).length := by simp; omega
    rw [hsplit, hlength, List.take_left]
    exact List.drop_left' (by simp)
  have hrest : (front ++ block inside ++ rest).drop (front.length + 2 + inside.length + 2)
      = rest := List.drop_left' (by simp [block]; omega)
  simp only [splice, hfront, hinside, hrest]

theorem opening?_eq_some {start : Nat} (h : s.opening? = some start) :
    s.place ≤ start ∧ "\x7b\x7b".toList <+: s.text.drop start := by
  obtain ⟨cut, hcut, rfl⟩ := Option.map_eq_some_iff.mp h
  refine ⟨Nat.le_add_right _ _, cut.2, ?_⟩
  have hdrop : s.text.drop s.place = cut.1 ++ '\x7b' :: '\x7b' :: cut.2 := cutOpening?_eq_some hcut
  rw [← List.drop_drop, hdrop, List.drop_left]
  rfl

/-- **What a pass does**: it finds a block at its place or behind it, and puts what the block
yields between what stands before it and what follows. -/
theorem next?_eq_some (h : s.next? choose = some next) :
    ∃ front inside rest, s.text = front ++ block inside ++ rest ∧ s.place ≤ front.length ∧
      s.opening? = some front.length ∧
      closing? s.text front.length = some (front.length + 2 + inside.length) ∧
      next = ⟨front ++ (yields choose inside).1 ++ rest,
        front.length + (yields choose inside).2⟩ := by
  obtain ⟨start, hstart, h⟩ := Option.bind_eq_some_iff.mp h
  obtain ⟨final, hfinal, rfl⟩ := Option.map_eq_some_iff.mp h
  obtain ⟨hplace, hopen⟩ := opening?_eq_some hstart
  obtain ⟨front, inside, rest, htext, rfl, rfl⟩ := closing?_eq_some hopen hfinal
  obtain ⟨text, place⟩ := s
  subst htext
  exact ⟨front, inside, rest, rfl, hplace, hstart, hfinal, splice_block choose front inside rest place⟩

/-- A pass takes two braces away at least. -/
theorem braces_of_next? (h : s.next? choose = some next) :
    braces next.text + 2 ≤ braces s.text := by
  obtain ⟨front, inside, rest, htext, -, -, -, rfl⟩ := next?_eq_some h
  have hyields := braces_yields choose inside
  simp only [htext, braces_append]
  omega

/-- A pass changes nothing before the block, and the search goes on behind that. -/
theorem take_of_next? (h : s.next? choose = some next) :
    ∃ start, s.opening? = some start ∧ s.place ≤ start ∧ start ≤ next.place ∧
      next.text.take start = s.text.take start := by
  obtain ⟨front, inside, rest, htext, hplace, hstart, -, rfl⟩ := next?_eq_some h
  refine ⟨front.length, hstart, hplace, Nat.le_add_right _ _, ?_⟩
  simp [htext]

/-- **What stands before the place is never changed again.** -/
theorem take_passes {k : Nat} (n : Nat) (hk : k ≤ s.place) :
    (s.passes choose n).text.take k = s.text.take k := by
  -- The place only moves on, so what stands before it now does so at every later pass.
  induction n generalizing s with
  | zero => rfl
  | succ n ih =>
      rw [passes]
      cases hnext : s.next? choose with
      | none => rfl
      | some next =>
          obtain ⟨start, -, hplace, hstart, htake⟩ := take_of_next? hnext
          have hle : k ≤ start := Nat.le_trans hk hplace
          calc (next.passes choose n).text.take k
              = next.text.take k := ih (Nat.le_trans hle hstart)
            _ = (next.text.take start).take k := by rw [List.take_take, Nat.min_eq_left hle]
            _ = (s.text.take start).take k := by rw [htake]
            _ = s.text.take k := by rw [List.take_take, Nat.min_eq_left hle]

/-! ## The whole text and what is still to be looked at -/

/-- A pass settles one block in what stands behind the place. -/
theorem next?_append (choose : Text → Bool) (first t : Text) :
    next? choose ⟨first ++ t, first.length⟩ = (settleOne? choose t).map fun settled =>
        ⟨first ++ settled.1 ++ settled.2, first.length + settled.1.length⟩ := by
  rw [next?, opening?, List.drop_left, settleOne?_eq]
  cases hcut : cutOpening? [] t with
  | none => rfl
  | some cut =>
      obtain rfl : t = cut.1 ++ '\x7b' :: '\x7b' :: cut.2 := cutOpening?_eq_some hcut
      have hclosing := closing?_append (first ++ cut.1) cut.2
      rw [List.append_assoc, List.length_append] at hclosing
      simp only [Option.map_some, Option.bind_some, hclosing, Option.map_map]
      cases hsize : closingFrom 1 0 0 cut.2 with
      | none => rfl
      | some size =>
          obtain ⟨inside, rest, hrest, hlength⟩ := closingFrom_eq_some hsize
          obtain rfl : size = inside.length := by omega
          have htext : first ++ (cut.1 ++ '\x7b' :: '\x7b' :: cut.2)
              = first ++ cut.1 ++ block inside ++ rest := by simp [hrest, block]
          have htake : cut.2.take inside.length = inside := by rw [hrest, List.take_left]
          have hdrop : cut.2.drop (inside.length + 2) = rest := by
            rw [hrest, ← List.drop_drop, List.drop_left]
            rfl
          have hsplice := splice_block choose (first ++ cut.1) inside rest first.length
          rw [List.length_append] at hsplice
          have hfinished := finished_le_yields choose inside
          simp only [Option.map_some, Function.comp_apply, htext, hsplice, htake, hdrop]
          simp only [List.append_assoc, List.length_append, List.length_take,
            Nat.min_eq_left hfinished, Nat.add_assoc]
          rw [← List.append_assoc ((yields choose inside).1.take _), List.take_append_drop]

/-- Where no block is left to settle, no pass is left. -/
theorem passes_settled (n : Nat) (first : Text) (h : settleOne? choose t = none) :
    (passes choose n ⟨first ++ t, first.length⟩).next? choose = none ∧
      (passes choose n ⟨first ++ t, first.length⟩).text = first ++ settle choose t := by
  have hnext : next? choose ⟨first ++ t, first.length⟩ = none := by
    rw [next?_append, h]
    rfl
  have hpasses : passes choose n ⟨first ++ t, first.length⟩ = ⟨first ++ t, first.length⟩ := by
    cases n with
    | zero => rfl
    | succ n => rw [passes, hnext]
  rw [hpasses, settle_eq, h]
  exact ⟨hnext, rfl⟩

/-- **The passes end** after half as many of them as the text has braces, and what they leave is
the text with all its blocks settled. -/
theorem passes_settle {n : Nat} (first : Text) (h : braces (first ++ t) ≤ 2 * n) :
    (passes choose n ⟨first ++ t, first.length⟩).next? choose = none ∧
      (passes choose n ⟨first ++ t, first.length⟩).text = first ++ settle choose t := by
  induction n generalizing first t with
  | zero =>
      cases hone : settleOne? choose t with
      | none => exact passes_settled 0 first hone
      | some settled =>
          -- A block has braces, and there are none.
          have hnext := next?_append choose first t
          rw [hone] at hnext
          have hbraces : _ + 2 ≤ braces (first ++ t) := braces_of_next? hnext
          omega
  | succ n ih =>
      cases hone : settleOne? choose t with
      | none => exact passes_settled (n + 1) first hone
      | some settled =>
          have hnext := next?_append choose first t
          rw [hone] at hnext
          have hbraces : braces (first ++ settled.1 ++ settled.2) + 2 ≤ braces (first ++ t) :=
            braces_of_next? hnext
          have hrest := ih (t := settled.2) (first ++ settled.1) (by omega)
          rw [List.length_append, List.append_assoc first settled.1 (settle _ _)] at hrest
          rw [passes, hnext, settle_eq, hone]
          exact hrest

/-! ## Every text -/

/-- **Settling ends for every text**, whatever its braces and however its conditions are decided.
A block that is closed is closed behind its opening pair, where two closing braces stand. Every
pass leaves fewer braces, and neither it nor a later one changes what stands before its block.
After half as many passes as the text has braces none is left, and the text is settled. -/
theorem passes_end (choose : Text → Bool) :
    (∀ (t : Text) (start final : Nat), "\x7b\x7b".toList <+: t.drop start →
      closing? t start = some final →
      start + 2 ≤ final ∧ "\x7d\x7d".toList <+: t.drop final) ∧
    (∀ s next : Sweep, s.next? choose = some next →
      braces next.text < braces s.text ∧
        ∃ start, s.opening? = some start ∧ s.place ≤ start ∧ start ≤ next.place ∧
          ∀ n, (next.passes choose n).text.take start = s.text.take start) ∧
    ∀ (t : Text) (n : Nat), braces t ≤ 2 * n →
      (passes choose n ⟨t, 0⟩).next? choose = none ∧
        (passes choose n ⟨t, 0⟩).text = settle choose t := by
  refine ⟨fun t start final => closing_pair, fun s next hnext => ?_, fun t n hn => ?_⟩
  · have hbraces := braces_of_next? hnext
    obtain ⟨start, hstart, hplace, hbehind, htake⟩ := take_of_next? hnext
    exact ⟨by omega, start, hstart, hplace, hbehind,
      fun n => (take_passes n hbehind).trans htake⟩
  · exact passes_settle [] hn

/-- A conditional stands in a block that is none, whose closing braces meet; another one is not
closed, as a single brace more stands before it. -/
def crossedText : Text :=
  ("\x7d\x7d \x7b\x7ba\x7b\x7bIF b THEN \x7b\x7bc\x7d\x7d ELSE d\x7d\x7d\x7d\x7d " ++
    "\x7b\x7b\x7bIF b THEN x\x7d\x7d").toList

theorem passes_end_crossedText :
    ("\x7b\x7b".toList <+: crossedText.drop 3 ∧ closing? crossedText 3 = some 32 ∧
      3 + 2 ≤ 32 ∧ "\x7d\x7d".toList <+: crossedText.drop 32) ∧
    (∃ next, next? (· = "b".toList) ⟨crossedText, 0⟩ = some next ∧
      braces next.text < braces crossedText ∧
      (next.passes (· = "b".toList) 2).text.take 3 = crossedText.take 3) ∧
    braces crossedText ≤ 2 * 10 ∧
      settle (· = "b".toList) crossedText
        = "\x7d\x7d \x7ba\x7bc\x7d\x7d \x7b\x7b\x7bIF b THEN x\x7d\x7d".toList := by
  obtain ⟨hpair, hpass, hends⟩ := passes_end (· = "b".toList)
  have hopen : "\x7b\x7b".toList <+: crossedText.drop 3 := by decide +kernel
  have hclose : closing? crossedText 3 = some 32 := by decide +kernel
  have hsome : (next? (· = "b".toList) ⟨crossedText, 0⟩).isSome = true := by decide +kernel
  have hbraces : braces crossedText ≤ 2 * 10 := by decide +kernel
  refine ⟨⟨hopen, hclose, hpair _ _ _ hopen hclose⟩, ?_, hbraces, ?_⟩
  · obtain ⟨next, hnext⟩ := Option.isSome_iff_exists.mp hsome
    obtain ⟨hfewer, start, hstart, -, -, htake⟩ := hpass _ _ hnext
    have hthree : opening? ⟨crossedText, 0⟩ = some 3 := by decide +kernel
    obtain rfl : start = 3 := Option.some.inj (hstart.symm.trans hthree)
    exact ⟨next, hnext, hfewer, htake 2⟩
  · rw [← (hends crossedText 10 hbraces).2]
    decide +kernel

end Sweep

end Questionnaire.Template
