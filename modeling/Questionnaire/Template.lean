import Questionnaire.Template.Block
import Questionnaire.Condition.Holds
import Questionnaire.Value.Listing
/-!
Texts with conditional blocks and placeholders. First the blocks are settled from left to right: a
conditional gives way to the branch that its condition chooses, which may hold blocks itself, and
any other block to its inside in single braces. Then each placeholder in single braces is filled
with a value, a list or a computed number; one that means nothing stays, with its braces escaped.
What is filled in is not looked at again.
-/
namespace Questionnaire.Template

open Text

/-- One block settled: the text that is finished, and the text still to be looked at. -/
def settleOne? (choose : Text → Bool) (t : Text) : Option (Text × Text) :=
  (cutOpening? [] t).bind fun cut =>
    (closingFrom 1 0 0 cut.2).map fun size =>
      let after := cut.2.drop (size + 2)
      match Branches.ofText? (cut.2.take size) with
      | none => (cut.1 ++ ['\x7b'], cut.2.take size ++ '\x7d' :: after)
      | some branches =>
        (cut.1, (if choose branches.condition then branches.yes else branches.no) ++ after)

theorem length_cutOpening? {before t : Text} {cut : Text × Text}
    (h : cutOpening? before t = some cut) : cut.2.length + 2 ≤ t.length := by
  fun_induction cutOpening? before t with
  | case1 => cases h
  | case2 => cases h; simp
  | case3 _ _ _ _ ih => have := ih h; simp only [List.length_cons]; omega

theorem length_wordAlone? {word before t tail : Text}
    (h : wordAlone? word before t = some tail) : t.length = word.length + tail.length := by
  unfold wordAlone? at h
  split at h
  · exact length_after? (Option.filter_eq_some_iff.1 h).1
  · cases h

theorem length_cutWordFrom {word : Text} {depth : Int} {before t : Text} {cut : Text × Text}
    (h : cutWordFrom word depth before t = some cut) :
    cut.1.length + word.length + cut.2.length ≤ before.length + t.length := by
  fun_induction cutWordFrom word depth before t with
  | case1 => cases h
  | case2 _ _ _ ih => have := ih h; simp only [List.length_cons] at this ⊢; omega
  | case3 _ _ _ ih => have := ih h; simp only [List.length_cons] at this ⊢; omega
  | case4 _ _ _ _ _ _ tail found =>
    cases h
    split at found
    · have := length_wordAlone? found
      simp only [List.length_reverse]
      omega
    · cases found
  | case5 _ _ _ _ _ _ _ ih => have := ih h; simp only [List.length_cons] at this ⊢; omega

theorem length_cutWord? {word t : Text} {cut : Text × Text} (h : cutWord? word t = some cut) :
    cut.1.length + word.length + cut.2.length ≤ t.length := by
  simpa using length_cutWordFrom h

/-- No branch of a conditional is longer than the block that holds it. -/
theorem Branches.length_le {content : Text} {branches : Branches}
    (h : Branches.ofText? content = some branches) :
    branches.yes.length ≤ content.length ∧ branches.no.length ≤ content.length := by
  unfold Branches.ofText? at h
  obtain ⟨rest, h1, h⟩ := Option.bind_eq_some_iff.1 h
  have e1 := length_after? h1
  have l1 := length_trimLeft_le content
  split at h
  · cases h
  · obtain ⟨found, h2, h⟩ := Option.bind_eq_some_iff.1 h
    have e2 := length_cutWord? h2
    have l2 := length_trimLeft_le rest
    split at h
    · cases h
    · split at h
      · cases h
        have := length_trim_le found.2
        exact ⟨by simp only; omega, by simp⟩
      · rename_i both h3
        have e3 := length_cutWord? h3
        cases h
        have := length_trim_le both.1
        have := length_trim_le both.2
        exact ⟨by simp only; omega, by simp only; omega⟩

/-- What is still to be looked at shrinks with every block. -/
theorem length_settleOne? {choose : Text → Bool} {t : Text} {settled : Text × Text}
    (h : settleOne? choose t = some settled) : settled.2.length < t.length := by
  unfold settleOne? at h
  obtain ⟨cut, h1, h⟩ := Option.bind_eq_some_iff.1 h
  have e1 := length_cutOpening? h1
  obtain ⟨size, _, h⟩ := Option.map_eq_some_iff.1 h
  have lt : (cut.2.take size).length + (cut.2.drop (size + 2)).length ≤ cut.2.length := by
    simp only [List.length_take, List.length_drop]
    omega
  split at h
  · cases h
    simp only [List.length_append, List.length_cons]
    omega
  · rename_i branches h2
    have := Branches.length_le h2
    cases h
    simp only [List.length_append]
    split <;> omega

/-- The text with all its blocks settled; a block that is not closed ends the work. -/
def settle (choose : Text → Bool) (t : Text) : Text :=
  match h : settleOne? choose t with
  | none => t
  | some settled =>
    have := length_settleOne? h
    settled.1 ++ settle choose settled.2
termination_by t.length

/-- A text cut into characters that stand for themselves and placeholders. -/
inductive Piece where
  | plain (c : Char)
  | hole (content : Text)
deriving DecidableEq, Repr

/-- The inside of the placeholder whose opening brace has just been read. -/
def holeAt? (t : Text) : Option Text :=
  let content := t.takeWhile isInside
  if !content.isEmpty && (t.dropWhile isInside).head? = some '\x7d' then some content else none

/-- The pieces of a text behind the character `previous`; `skip` characters belong to a
placeholder that has been read. A brace behind a backslash opens nothing. -/
def piecesFrom (previous : Option Char) : Nat → Text → List Piece
  | _, [] => []
  | skip + 1, c :: rest => piecesFrom (some c) skip rest
  | 0, c :: rest =>
    match if c = '\x7b' && previous ≠ some '\\' then holeAt? rest else none with
    | some content => .hole content :: piecesFrom (some c) (content.length + 1) rest
    | none => .plain c :: piecesFrom (some c) 0 rest

/-- The pieces of a text. -/
def pieces (t : Text) : List Piece := piecesFrom none 0 t

/-- How the list in a placeholder is written. -/
inductive Style where
  | bullets
  | phrase
deriving DecidableEq, Repr

/-- The text before blanks, the word AS, blanks and `word` at the end of a placeholder. -/
def beforeStyle? (word content : Text) : Option Text :=
  (after? word.reverse content.reverse).bind fun rest =>
    if blanks rest = 0 then none
    else
      (after? ['S', 'A'] (trimLeft rest)).bind fun rest =>
        if blanks rest = 0 then none
        else
          let reversed := trimLeft rest
          if reversed.isEmpty || reversed.contains '\n' then none else some reversed.reverse

/-- The placeholder's name or formula, and the style that it asks for. -/
def cutStyle (content : Text) : Text × Style :=
  match beforeStyle? "INLINE_LIST".toList content with
  | some name => (trim name, .phrase)
  | none =>
    match beforeStyle? "LIST".toList content with
    | some name => (trim name, .bullets)
    | none => (content, .bullets)

/-- A value as it is filled in. -/
def show? (style : Style) (value : Value) : Option Text :=
  let items? :=
    match value with
    | .map entries => (Value.labelEntries? entries).map some
    | .list items => some (some items)
    | _ => some none
  items?.bind fun items =>
    match items with
    | none => value.display?
    | some items =>
      match style with
      | .bullets => Value.bulletList? items
      | .phrase => Value.phraseList? items

/-- What a placeholder means. -/
inductive Meaning where
  | value (value : Value) (style : Style)
  | formula (text : Text)
  | nothing

/-- The meaning of a placeholder: a name that has a value, else a computation. -/
def meaning (scope : Scope) (content : Text) : Meaning :=
  let name := (cutStyle (trim content)).1
  match scope.get? name with
  | some value => .value value (cutStyle (trim content)).2
  | none => if Formula.isComputation name then .formula name else .nothing

/-- The placeholder with its braces escaped. -/
def escaped (content : Text) : Text := '\\' :: '\x7b' :: content ++ ['\\', '\x7d']

/-- What is written for a placeholder. -/
def fillHole? (scope : Scope) (content : Text) : Option Text :=
  match meaning scope content with
  | .value value style => show? style value
  | .formula text => some (Decimal.displayFloat (Formula.evaluate text scope))
  | .nothing => some (escaped content)

/-- What is written for the pieces of a text. -/
def fillPieces? (scope : Scope) : List Piece → Option Text
  | [] => some []
  | .plain c :: rest => (fillPieces? scope rest).map (c :: ·)
  | .hole content :: rest => do
    let first ← fillHole? scope content
    let others ← fillPieces? scope rest
    pure (first ++ others)

/-- The text with its blocks settled and its placeholders filled. There is none only if a value
to be shown is a whole number out of range. -/
def fill? (scope : Scope) (t : Text) : Option Text :=
  fillPieces? scope (pieces (settle (Condition.evaluate · scope) t))

end Questionnaire.Template
