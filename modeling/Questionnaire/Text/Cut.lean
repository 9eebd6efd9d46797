import Questionnaire.Text.Blank
/-!
Cutting text. A separator is given by the length of what it matches at the start of a text, zero
where it does not match; `splitBy` cuts a text at the leftmost matches and `replaceBy` puts
another text in their place. Both are recursions on the text itself, which count down the
characters of a match under way.
-/
namespace Questionnaire.Text

/-- What follows `start`, if the text begins with it. -/
def after? (start : Text) (t : Text) : Option Text :=
  match start, t with
  | [], t => some t
  | _ :: _, [] => none
  | a :: start, b :: t => if a = b then after? start t else none

/-- Whether the text begins with `start`. -/
def hasStart (start t : Text) : Bool := (after? start t).isSome

/-- Whether the text ends with `final`. -/
def hasEnd (final t : Text) : Bool := hasStart final.reverse t.reverse

/-- The pieces between the matches; the accumulator holds the piece under way, reversed. -/
def splitFrom (width : Text → Nat) : Nat → Text → Text → List Text
  | _, piece, [] => [piece.reverse]
  | skip + 1, piece, _ :: rest => splitFrom width skip piece rest
  | 0, piece, c :: rest =>
    match width (c :: rest) with
    | 0 => splitFrom width 0 (c :: piece) rest
    | skip + 1 => piece.reverse :: splitFrom width skip [] rest

/-- The pieces of the text between the matches of a separator. -/
def splitBy (width : Text → Nat) (t : Text) : List Text := splitFrom width 0 [] t

/-- The text with every match replaced, from within a match that has `skip` characters to go. -/
def replaceFrom (width : Text → Nat) (replacement : Text) : Nat → Text → Text
  | _, [] => []
  | skip + 1, _ :: rest => replaceFrom width replacement skip rest
  | 0, c :: rest =>
    match width (c :: rest) with
    | 0 => c :: replaceFrom width replacement 0 rest
    | skip + 1 => replacement ++ replaceFrom width replacement skip rest

/-- The text with every match of a separator replaced. -/
def replaceBy (width : Text → Nat) (replacement t : Text) : Text :=
  replaceFrom width replacement 0 t

/-- The number of blanks at the start of the text. -/
def blanks (t : Text) : Nat := (t.takeWhile isBlank).length

/-- The width of `mark` with whatever blanks stand on its two sides, zero where it is absent. -/
def widthLoose (mark t : Text) : Nat :=
  match after? mark (t.drop (blanks t)) with
  | none => 0
  | some rest => blanks t + mark.length + blanks rest

/-- The width of `word` with at least one blank on each side, zero where it is absent. -/
def widthSpaced (word t : Text) : Nat :=
  if blanks t = 0 then 0
  else
    match after? word (t.drop (blanks t)) with
    | none => 0
    | some rest => if blanks rest = 0 then 0 else blanks t + word.length + blanks rest

/-- How often `mark` occurs in the text, overlaps not counted. -/
def occurrences (mark t : Text) : Nat :=
  (splitBy (fun s => if hasStart mark s then mark.length else 0) t).length - 1

/-- The pieces joined with a separator between them. -/
def join (separator : Text) : List Text → Text
  | [] => []
  | [piece] => piece
  | piece :: rest => piece ++ separator ++ join separator rest

/-- The lines of a text, without the line feeds between them. -/
def lines (t : Text) : List Text := splitBy (fun s => if s.head? = some '\n' then 1 else 0) t

/-- The text with the line ends CR LF and CR written as LF. -/
def normalizeLineEnds : Text → Text
  | [] => []
  | '\r' :: '\n' :: rest => '\n' :: normalizeLineEnds rest
  | c :: rest => (if c = '\r' then '\n' else c) :: normalizeLineEnds rest

theorem length_after? {start t rest : Text} (h : after? start t = some rest) :
    t.length = start.length + rest.length := by
  induction start generalizing t with
  | nil => simp [after?] at h; simp [h]
  | cons a start ih =>
    cases t with
    | nil => simp [after?] at h
    | cons b t =>
      simp only [after?] at h
      split at h
      · have := ih h; simp only [List.length_cons]; omega
      · cases h

theorem length_blanks_le (t : Text) : blanks t ≤ t.length :=
  (List.takeWhile_sublist _).length_le

theorem widthSpaced_le (word t : Text) : widthSpaced word t ≤ t.length := by
  unfold widthSpaced
  split
  · omega
  · split
    · omega
    · rename_i rest h
      have hl := length_after? h
      have := length_blanks_le rest
      have := length_blanks_le t
      rw [List.length_drop] at hl
      split <;> omega

theorem le_widthSpaced {word t : Text} (h : widthSpaced word t ≠ 0) :
    word.length + 2 ≤ widthSpaced word t := by
  unfold widthSpaced at h ⊢
  split
  · simp_all
  · split
    · simp_all
    · split
      · simp_all
      · omega

theorem widthLoose_le (mark t : Text) : widthLoose mark t ≤ t.length := by
  unfold widthLoose
  split
  · omega
  · rename_i rest h
    have hl := length_after? h
    have := length_blanks_le rest
    have := length_blanks_le t
    rw [List.length_drop] at hl
    omega

/-- A piece and the number of matches together are no longer than the text. -/
theorem length_splitFrom (width : Text → Nat) (skip : Nat) (piece t : Text) :
    (splitFrom width skip piece t).length ≤ t.length + 1 ∧
      ∀ p ∈ splitFrom width skip piece t,
        p.length + (splitFrom width skip piece t).length ≤ piece.length + t.length + 1 := by
  induction t generalizing skip piece with
  | nil => cases skip <;> simp [splitFrom]
  | cons c rest ih =>
    cases skip with
    | succ skip =>
      obtain ⟨h1, h2⟩ := ih skip piece
      simp only [splitFrom, List.length_cons]
      exact ⟨by omega, fun p hp => by have := h2 p hp; omega⟩
    | zero =>
      simp only [splitFrom, List.length_cons]
      split
      · obtain ⟨h1, h2⟩ := ih 0 (c :: piece)
        refine ⟨by omega, fun p hp => ?_⟩
        have := h2 p hp
        simp only [List.length_cons] at this
        omega
      · rename_i skip _
        obtain ⟨h1, h2⟩ := ih skip []
        refine ⟨by simp only [List.length_cons]; omega, fun p hp => ?_⟩
        simp only [List.length_cons]
        rcases List.mem_cons.1 hp with rfl | hp
        · simp only [List.length_reverse]; omega
        · have := h2 p hp
          simp only [List.length_nil] at this
          omega

/-- Where there are several pieces, each is shorter than the text. -/
theorem length_lt_of_mem_splitBy {width : Text → Nat} {t p : Text} (h : p ∈ splitBy width t)
    (several : 2 ≤ (splitBy width t).length) : p.length < t.length := by
  have := (length_splitFrom width 0 [] t).2 p h
  simp only [splitBy] at several h
  simp only [List.length_nil] at this
  omega

/-- A replacement no longer than what it replaces does not lengthen the text. -/
theorem length_replaceFrom_le {width : Text → Nat} {replacement : Text}
    (fits : ∀ s, width s ≠ 0 → replacement.length ≤ width s) (within : ∀ s, width s ≤ s.length)
    (skip : Nat) (t : Text) (inside : skip ≤ t.length) :
    (replaceFrom width replacement skip t).length + skip ≤ t.length := by
  induction t generalizing skip with
  | nil => simp only [List.length_nil] at inside; cases skip <;> simp_all [replaceFrom]
  | cons c rest ih =>
    simp only [List.length_cons] at inside
    cases skip with
    | succ skip =>
      have := ih skip (by omega)
      simp only [replaceFrom, List.length_cons]
      omega
    | zero =>
      simp only [replaceFrom]
      split
      · have := ih 0 (by omega)
        simp only [List.length_cons]
        omega
      · rename_i skip hw
        have hf := fits (c :: rest) (by omega)
        have hi := within (c :: rest)
        simp only [List.length_cons] at hi
        have := ih skip (by omega)
        simp only [List.length_append, List.length_cons]
        omega

theorem length_replaceBy_le {width : Text → Nat} {replacement : Text}
    (fits : ∀ s, width s ≠ 0 → replacement.length ≤ width s) (within : ∀ s, width s ≤ s.length)
    (t : Text) : (replaceBy width replacement t).length ≤ t.length := by
  have := length_replaceFrom_le fits within 0 t (Nat.zero_le _)
  simpa [replaceBy] using this

end Questionnaire.Text
