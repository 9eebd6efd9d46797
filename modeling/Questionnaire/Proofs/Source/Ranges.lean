import Questionnaire.Proofs.Decimal.Writing
import Questionnaire.Proofs.Source.Leads
import Questionnaire.Proofs.Source.Malformed

/-!
# Ranges of options

The dash between the ends of a range is also the sign of a number, and still each range
is read as the two ends that it was written for (`readEnds?_writeRange`). In a question
that takes options a line with a range adds one option for each number of the interval
and changes nothing else of the question (`read_range`). An end may have too many digits
for a numeral (`IsOutsized`), and then nothing is read.
-/

namespace Questionnaire.Source

open Text Decimal

variable {first last : Int}

/-- A range as it is written: its two ends with a dash between them. -/
def writeRange (first last : Int) : Text := writeInt first ++ '-' :: writeInt last

/-- Whether the number has more digits than a numeral may have. -/
def IsOutsized (n : Int) : Prop := 10 ^ numeralLimit ≤ n.natAbs

instance (n : Int) : Decidable (IsOutsized n) :=
  inferInstanceAs (Decidable (10 ^ numeralLimit ≤ n.natAbs))

/-! ## Reading a range -/

theorem isWhole_writeInt (n : Int) : IsWhole (writeInt n) n := by
  have hdigits : ∀ c ∈ writeNat n.natAbs, isDecimal c = true :=
    List.all_eq_true.mp (all_isDecimal_writeNat _)
  have hvalue : (digitsValue (writeNat n.natAbs) : Int) = n.natAbs := by rw [digitsValue_writeNat]
  rw [writeInt]
  split
  · have hminus : -(digitsValue (writeNat n.natAbs) : Int) = n := by omega
    have hwhole := IsWhole.minus (writeNat_ne_nil n.natAbs) hdigits
    rwa [hminus] at hwhole
  · have hplain : (digitsValue (writeNat n.natAbs) : Int) = n := by omega
    have hwhole := IsWhole.plain (writeNat_ne_nil n.natAbs) hdigits
    rwa [hplain] at hwhole

/-- **The ends of a range are read off its text**, whatever their signs. -/
theorem readEnds?_writeRange (first last : Int) :
    readEnds? (writeRange first last) = some (first, last) :=
  readEnds?_eq_some.mpr ⟨_, _, rfl, isWhole_writeInt first, isWhole_writeInt last⟩

theorem not_isBlank_of_mem_writeRange {c : Char} (h : c ∈ writeRange first last) :
    isBlank c = false := by
  rcases List.mem_append.mp h with h | h
  · exact State.not_isBlank_of_mem_writeInt h
  · rcases List.mem_cons.mp h with rfl | h
    · decide
    · exact State.not_isBlank_of_mem_writeInt h

theorem trim_writeRange (first last : Int) :
    trim (writeRange first last) = writeRange first last :=
  trim_of_no_blank fun _ => not_isBlank_of_mem_writeRange

/-! ### Numbers that are too long -/

/-- A run of digits goes on to the first other character. -/
theorem isOverlong_append {digits rest : Text} (hdigits : digits.all isDecimal = true)
    (hrest : ∀ c, rest.head? = some c → isDecimal c = false) (run : Nat) :
    isOverlong run (digits ++ rest)
      = (decide (numeralLimit < run + digits.length) || isOverlong 0 rest) := by
  induction digits generalizing run with
  | nil =>
      cases rest with
      | nil => simp [isOverlong]
      | cons c rest =>
          have hzero : ¬numeralLimit < 0 := Nat.not_lt_zero _
          simp [isOverlong, hrest c rfl, hzero]
  | cons c digits ih =>
      rw [List.all_cons, Bool.and_eq_true] at hdigits
      have hlength : run + 1 + digits.length = run + (digits.length + 1) := by omega
      simp only [List.cons_append, isOverlong, hdigits.1, if_true, ih hdigits.2, List.length_cons,
        hlength]

theorem lt_length_writeNat (n : Nat) :
    numeralLimit < (writeNat n).length ↔ 10 ^ numeralLimit ≤ n := by
  have hle := @Nat.length_toDigits_le_iff 10 n numeralLimit (by decide) (by decide)
  rw [← writeNat] at hle
  omega

theorem isOverlong_writeInt (n : Int) (rest : Text)
    (hrest : ∀ c, rest.head? = some c → isDecimal c = false) :
    isOverlong 0 (writeInt n ++ rest) = true ↔ IsOutsized n ∨ isOverlong 0 rest = true := by
  have hnat : isOverlong 0 (writeNat n.natAbs ++ rest) = true ↔
      IsOutsized n ∨ isOverlong 0 rest = true := by
    rw [isOverlong_append (all_isDecimal_writeNat _) hrest, Bool.or_eq_true, decide_eq_true_eq,
      Nat.zero_add, lt_length_writeNat, IsOutsized]
  rw [writeInt]
  split
  · have hminus : isOverlong 0 ('-' :: writeNat n.natAbs ++ rest)
        = isOverlong 0 (writeNat n.natAbs ++ rest) := by
      simp [isOverlong, show isDecimal '-' = false by decide]
    rw [hminus, hnat]
  · exact hnat

theorem isOverlong_writeRange :
    isOverlong 0 (writeRange first last) = true ↔ IsOutsized first ∨ IsOutsized last := by
  have hlast := isOverlong_writeInt last [] (by simp)
  have hdash : isOverlong 0 ('-' :: writeInt last) = isOverlong 0 (writeInt last) := by
    simp [isOverlong, show isDecimal '-' = false by decide]
  rw [List.append_nil] at hlast
  rw [writeRange, isOverlong_writeInt first _ (by simp; decide), hdash, hlast]
  simp [isOverlong]

/-- **What a range is read as**, whatever blanks are around it. -/
theorem rangeOf_writeRange {value : Text} (h : trim value = writeRange first last) :
    rangeOf value = if IsOutsized first ∨ IsOutsized last then .error (.numeral value)
      else if last < first then .error (.reversed first last) else .ok (first, last) := by
  simp only [rangeOf, h, readEnds?_writeRange, isOverlong_writeRange]

/-! ## The options of a range -/

/-- The options of a range, one for each of its numbers in order. -/
def rangeChoices (first last : Int) : List Choice :=
  (numbers first last).map fun n => { value := writeInt n, label := writeInt n }

theorem length_rangeChoices (first last : Int) :
    (rangeChoices first last).length = (last + 1 - first).toNat := by
  simp [rangeChoices, numbers]

theorem getElem?_rangeChoices {i : Nat} (h : first + i ≤ last) :
    (rangeChoices first last)[i]?
      = some { value := writeInt (first + i), label := writeInt (first + i) } := by
  have hi : i < (last + 1 - first).toNat := by omega
  simp [rangeChoices, numbers, hi]

theorem getLast?_rangeChoices (h : first ≤ last) :
    (rangeChoices first last).getLast?
      = some { value := writeInt last, label := writeInt last } := by
  have hlast : first + ((last + 1 - first).toNat - 1 : Nat) = last := by omega
  rw [List.getLast?_eq_getElem?, length_rangeChoices, getElem?_rangeChoices (by omega), hlast]

namespace State

theorem context_ne_content {st : State} {question : Question}
    (h : st.question? = some question) : st.context ≠ .content := by
  cases hselection : st.selection? with
  | none => simp [context, h, hselection]
  | some selection => cases selection <;> simp [context, h, hselection]

/-- The keyword of a range and its value. -/
theorem keyword?_range (gap : Blanks) (first last : Int) :
    keyword? ("RANGE:".toList ++ gap.1 ++ writeRange first last)
      = some ("RANGE".toList, writeRange first last) := by
  have hfeed : '\n' ∉ writeRange first last := fun hmem =>
    absurd (not_isBlank_of_mem_writeRange hmem) (by decide)
  have hrest := restOfLine?_behind gap (trim_writeRange first last) hfeed
  simp [keyword?, isKeywordChar, hrest]

/-- **A line with a range** adds the numbers of the interval as options to the question that is
open, and selects the last of them. -/
theorem read_range {st : State} {question : Question} (hquestion : st.question? = some question)
    (htakes : question.body.takesOptions = true) (hcapture : st.capture? = none)
    (hfenced : st.isFenced = false) {raw : Text} {gap : Blanks}
    (hraw : trim raw = "RANGE:".toList ++ gap.1 ++ writeRange first last)
    (hfirst : ¬IsOutsized first) (hlast : ¬IsOutsized last) (hle : first ≤ last) (number : Nat)
    (after : List Text) :
    st.read number raw after = .ok { st with
      question? := some { question with
        body := question.body.mapOptions (· ++ rangeChoices first last) }
      selection? := some .option
      textOpen := false } := by
  have hfence : hasStart fence (trim raw) = false := by
    rw [hraw]
    simp [hasStart, after?, fence]
  have hkeyword := keyword?_range gap first last
  rw [← hraw] at hkeyword
  have hvalue := rangeOf_writeRange (trim_writeRange first last)
  rw [if_neg (not_or_intro hfirst hlast), if_neg (by omega)] at hvalue
  rw [read_of_classify hcapture hfence hfenced,
    classify_range (context_ne_content hquestion) hkeyword, hvalue]
  simp [Except.map, readLine, readInside, readRange, hquestion, htakes, addOptions, mapBody,
    mapQuestion, rangeChoices]

end State

/-! ## Ranges mean their intervals -/

/-- **What a range means.** -/
structure Spans (first last : Int) : Prop where
  /-- It is read as its two ends, with any blanks around it. -/
  ends : ¬IsOutsized first → ¬IsOutsized last → first ≤ last →
    ∀ value, trim value = writeRange first last → rangeOf value = .ok (first, last)
  /-- If it ends before it starts, that is the fault, with the two ends. -/
  reversed : ¬IsOutsized first → ¬IsOutsized last → last < first →
    ∀ value, trim value = writeRange first last → rangeOf value = .error (.reversed first last)
  /-- If an end has too many digits, that is the fault. -/
  outsized : IsOutsized first ∨ IsOutsized last →
    ∀ value, trim value = writeRange first last → rangeOf value = .error (.numeral value)
  /-- In a question that takes options, a line with the range adds one option for each number
  of the interval, with the number as value and as label, behind those that are there. The last
  one is selected, and nothing else changes but that the text of the question has ended. -/
  line : ¬IsOutsized first → ¬IsOutsized last → first ≤ last →
    ∀ (st : State) (question : Question), st.question? = some question →
      question.body.takesOptions = true → st.capture? = none → st.isFenced = false →
      ∀ (number : Nat) (raw : Text) (after : List Text) (gap : Blanks),
        trim raw = "RANGE:".toList ++ gap.1 ++ writeRange first last →
        ∃ added : List Choice,
          st.read number raw after = .ok { st with
            question? := some { question with body := question.body.mapOptions (· ++ added) }
            selection? := some .option
            textOpen := false } ∧
          (question.body.mapOptions (· ++ added)).options = question.options ++ added ∧
          (added.length : Int) = last - first + 1 ∧
          (∀ i : Nat, first + i ≤ last → added[i]?
            = some { value := writeInt (first + i), label := writeInt (first + i) }) ∧
          added.getLast? = some { value := writeInt last, label := writeInt last }

theorem spans (first last : Int) : Spans first last where
  ends := fun hfirst hlast hle value hvalue => by
    rw [rangeOf_writeRange hvalue, if_neg (not_or_intro hfirst hlast), if_neg (by omega)]
  reversed := fun hfirst hlast hless value hvalue => by
    rw [rangeOf_writeRange hvalue, if_neg (not_or_intro hfirst hlast), if_pos hless]
  outsized := fun hlong value hvalue => by
    rw [rangeOf_writeRange hvalue, if_pos hlong]
  line := by
    intro hfirst hlast hle st question hquestion htakes hcapture hfenced number raw after gap hraw
    refine ⟨rangeChoices first last, State.read_range hquestion htakes hcapture hfenced hraw hfirst
      hlast hle number after, ?_, ?_, fun i hi => getElem?_rangeChoices hi,
      getLast?_rangeChoices hle⟩
    · exact Question.options_mapOptions _ question (question.takesOptions_eq ▸ htakes)
    · rw [length_rangeChoices]
      omega

/-- What is no range is refused with the form that was expected. -/
theorem rangeOf_eq_range {value : Text} : rangeOf value = .error (.range value) ↔
    ∀ first last, ¬IsRange (trim value) first last := by
  constructor
  · intro h
    cases rangeOf_eq_error.mp h with
    | form hnone => exact hnone
  · exact fun hnone => rangeOf_eq_error.mpr (.form hnone)

/-- **Ranges mean their intervals, and nothing else is a range.** -/
theorem spans_interval (first last : Int) (value : Text) : Spans first last ∧
    (rangeOf value = .error (.range value) ↔
      ∀ first last, ¬IsRange (trim value) first last) :=
  ⟨spans first last, rangeOf_eq_range⟩

example : rangeOf " -5--2 ".toList = .ok (-5, -2) := by decide +kernel

end Questionnaire.Source
