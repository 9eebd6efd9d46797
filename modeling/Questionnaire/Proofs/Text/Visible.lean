import Questionnaire.Proofs.Text.Trim

/-!
# What is to be seen of a text

A text is cut into lines at its line feeds, and of a line that is not blank there is to
be seen what stands between the blanks at its ends (`contents`). Joining lines
and trimming them at the right takes nothing away from that, and neither does
leaving out blank ones at the two ends.
-/

namespace Questionnaire.Text

/-! ## Lines -/

private theorem splitFrom_lines (piece t : Text) :
    splitFrom (fun s => if s.head? = some '\n' then 1 else 0) 0 piece t
      = (lines t).modifyHead (piece.reverse ++ ·) := by
  induction t generalizing piece with
  | nil => simp [lines, splitBy, splitFrom]
  | cons c t ih =>
      by_cases hc : c = '\n'
      · simp [lines, splitBy, splitFrom, hc]
      · simp only [lines, splitBy, splitFrom, List.head?_cons, Option.some.injEq, hc, if_false]
        rw [ih (c :: piece), ih [c]]
        cases lines t <;> simp

@[simp] theorem lines_nil : lines [] = [[]] := rfl

@[simp] theorem lines_feed (t : Text) : lines ('\n' :: t) = [] :: lines t := by
  simp [lines, splitBy, splitFrom]

theorem lines_cons {c : Char} (hc : c ≠ '\n') (t : Text) :
    lines (c :: t) = (lines t).modifyHead (c :: ·) := by
  have h := splitFrom_lines [c] t
  simpa [lines, splitBy, splitFrom, hc] using h

theorem lines_ne_nil (t : Text) : lines t ≠ [] := by
  induction t with
  | nil => simp
  | cons c t ih =>
      by_cases hc : c = '\n'
      · simp [hc]
      · simpa [lines_cons hc] using ih

/-- A line feed stands between the lines before it and those behind it. -/
theorem lines_append (a b : Text) : lines (a ++ '\n' :: b) = lines a ++ lines b := by
  induction a with
  | nil => simp
  | cons c a ih =>
      by_cases hc : c = '\n'
      · simp [hc, ih]
      · rw [List.cons_append, lines_cons hc, lines_cons hc, ih]
        cases h : lines a with
        | nil => exact absurd h (lines_ne_nil a)
        | cons first rest => rfl

/-- A text without line feeds is one line. -/
theorem lines_of_not_mem {t : Text} (h : '\n' ∉ t) : lines t = [t] := by
  induction t with
  | nil => rfl
  | cons c t ih =>
      obtain ⟨hc, ht⟩ := not_or.mp (mt List.mem_cons.mpr h)
      simp [lines_cons (Ne.symm hc), ih ht]

/-- The lines of a blank text are blank. -/
theorem isBlankText_of_mem_lines {t : Text} (h : isBlankText t = true) :
    ∀ line ∈ lines t, isBlankText line = true := by
  induction t with
  | nil => simp [isBlankText]
  | cons c t ih =>
      rw [isBlankText, List.all_cons, Bool.and_eq_true] at h
      intro line hline
      by_cases hc : c = '\n'
      · rw [hc, lines_feed] at hline
        rcases List.mem_cons.mp hline with rfl | hline
        · rfl
        · exact ih h.2 line hline
      · rw [lines_cons hc] at hline
        cases hlines : lines t with
        | nil => exact absurd hlines (lines_ne_nil t)
        | cons first rest =>
            rw [hlines] at hline ih
            rcases List.mem_cons.mp hline with rfl | hline
            · have hfirst := ih h.2 first List.mem_cons_self
              rw [isBlankText] at hfirst
              simp [isBlankText, h.1, hfirst]
            · exact ih h.2 line (List.mem_cons_of_mem _ hline)

/-! ## What is to be seen -/

/-- What is to be seen of a line: nothing of a blank one, and else what stands
between the blanks at its ends. -/
def visible (line : Text) : List Text := if isBlankText line then [] else [trim line]

/-- What is to be seen of a text, line by line. -/
def contents (t : Text) : List Text := (lines t).flatMap visible

theorem visible_of_isBlankText {t : Text} (h : isBlankText t = true) : visible t = [] :=
  if_pos h

theorem isBlankText_trim (t : Text) : isBlankText (trim t) = isBlankText t := by
  obtain ⟨before, hsplit, hblank, _⟩ := trimLeft_spec t
  rw [trim, isBlankText_trimRight, isBlankText, isBlankText]
  conv => rhs; rw [hsplit]
  rw [List.all_append, hblank, Bool.true_and]

theorem trim_append_blank (t : Text) {after : Text} (h : after.all isBlank = true) :
    trim (t ++ after) = trim t := by
  induction after generalizing t with
  | nil => rw [List.append_nil]
  | cons c after ih =>
      rw [List.all_cons, Bool.and_eq_true] at h
      rw [List.append_cons, ih _ h.2, trim_concat_blank h.1]

theorem trim_trimRight (t : Text) : trim (trimRight t) = trim t := by
  obtain ⟨after, hsplit, hblank, _⟩ := trimRight_spec t
  conv => rhs; rw [hsplit, trim_append_blank _ hblank]

@[simp] theorem visible_trimRight (t : Text) : visible (trimRight t) = visible t := by
  rw [visible, visible, isBlankText_trimRight, trim_trimRight]

@[simp] theorem visible_trim (t : Text) : visible (trim t) = visible t := by
  rw [visible, visible, isBlankText_trim, trim_trim]

theorem contents_append (a b : Text) :
    contents (a ++ '\n' :: b) = contents a ++ contents b := by
  rw [contents, lines_append, List.flatMap_append]
  rfl

theorem contents_of_not_mem {t : Text} (h : '\n' ∉ t) : contents t = visible t := by
  simp [contents, lines_of_not_mem h]

theorem contents_of_isBlankText {t : Text} (h : isBlankText t = true) : contents t = [] :=
  List.flatMap_eq_nil_iff.mpr fun line hline =>
    visible_of_isBlankText (isBlankText_of_mem_lines h line hline)

/-- Joining lines adds nothing and takes nothing away. -/
theorem contents_join (all : List Text) : contents (join ['\n'] all) = all.flatMap contents := by
  induction all with
  | nil => rfl
  | cons first rest ih =>
      cases rest with
      | nil => simp [join]
      | cons second rest =>
          have hjoin : join ['\n'] (first :: second :: rest)
              = first ++ '\n' :: join ['\n'] (second :: rest) := by
            simp [join]
          rw [hjoin, contents_append, ih]
          rfl

/-- Blank lines at the front hold nothing. -/
theorem contents_dropWhile (all : List Text) :
    (all.dropWhile isBlankText).flatMap contents = all.flatMap contents := by
  induction all with
  | nil => rfl
  | cons first rest ih =>
      by_cases h : isBlankText first = true
      · rw [List.dropWhile_cons_of_pos h, ih, List.flatMap_cons, contents_of_isBlankText h,
          List.nil_append]
      · rw [List.dropWhile_cons_of_neg h]

/-- Blank lines at the end hold nothing. -/
theorem contents_dropWhile_reverse (all : List Text) :
    ((all.reverse.dropWhile isBlankText).reverse).flatMap contents = all.flatMap contents := by
  -- What is left out are blank lines.
  have hsplit : all = (all.reverse.dropWhile isBlankText).reverse
      ++ (all.reverse.takeWhile isBlankText).reverse := by
    rw [← List.reverse_append, List.takeWhile_append_dropWhile, List.reverse_reverse]
  have hblank : ((all.reverse.takeWhile isBlankText).reverse).flatMap contents = [] := by
    refine List.flatMap_eq_nil_iff.mpr fun line hline => contents_of_isBlankText ?_
    exact List.all_eq_true.mp List.all_takeWhile line (List.mem_reverse.mp hline)
  conv => rhs; rw [hsplit, List.flatMap_append, hblank, List.append_nil]

end Questionnaire.Text
