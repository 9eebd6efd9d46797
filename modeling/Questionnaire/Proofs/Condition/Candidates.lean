import Questionnaire.Proofs.Condition.Settled

/-!
# The names of a part

What counts as a name in a part of a condition (`candidates`): words of it, and
those on the two sides of its comparison. A side with a symbol in it names
nothing. Writing the keyword operators of a settled part as symbols brings no
name to light (`candidates_normalize`): what it adds is behind the symbol at
which the part is compared, or the part begins with a symbol and then nothing
in it counts.
-/

namespace Questionnaire.Condition

open Text Validation

/-! ## Sides with a symbol in them -/

theorem isForeign_of_mem_symbol {relation : Relation} {c : Char} (h : c ∈ relation.symbol) :
    Formula.IsForeign c := by
  have hsub : relation.symbol ⊆ ['=', '!', '>', '<'] := by cases relation <;> decide
  have hmem : c = '=' ∨ c = '!' ∨ c = '>' ∨ c = '<' := by simpa using hsub h
  rcases hmem with rfl | rfl | rfl | rfl <;>
    exact ⟨by decide, by decide, by decide, by decide⟩

variable {relation : Relation} {c : Char} {t : Text}

/-- No computation has a symbol in it. -/
theorem isComputation_of_symbol (hc : c ∈ relation.symbol) (h : c ∈ t) :
    Formula.isComputation t = false := by
  have hforeign := isForeign_of_mem_symbol hc
  rw [Formula.isComputation]
  cases hof : Formula.ofText (trim t) with
  | error cause => simp [Except.toBool]
  | ok formula => exact absurd (mem_trim_of_mem h hforeign.solid) (hforeign.not_mem_of_ofText hof)

/-- No name has a symbol in it. -/
theorem isIdentifier_of_symbol (hc : c ∈ relation.symbol) (h : c ∈ t) : isIdentifier t = false := by
  rw [Bool.eq_false_iff]
  intro hname
  have hbare := isName_of_isIdentifier hname
  simp only [isName, isBareWord, Bool.and_eq_true, List.all_eq_true] at hbare
  have := hbare.1.2 c h
  rw [(isForeign_of_mem_symbol hc).word] at this
  cases this

theorem leftNames_of_symbol (hc : c ∈ relation.symbol) (h : c ∈ t) : leftNames t = [] := by
  rw [leftNames, isComputation_of_symbol hc h, isIdentifier_of_symbol hc h]
  rfl

theorem rightNames_of_symbol (hc : c ∈ relation.symbol) (h : c ∈ t) : rightNames t = [] := by
  rw [rightNames, isComputation_of_symbol hc h]
  rfl

/-! ## Names are words -/

theorem identifiers_mono {s t : Text} (h : openWords s ⊆ openWords t) :
    Formula.identifiers s ⊆ Formula.identifiers t := by
  intro n hn
  rw [Formula.mem_identifiers] at hn ⊢
  exact ⟨h hn.1, hn.2⟩

/-- An identifier that is an open word is one of the names of a text. -/
theorem mem_identifiers_of_isIdentifier {n : Text} (h : isIdentifier n = true)
    (hword : n ∈ openWords t) : n ∈ Formula.identifiers t := by
  have hname := isName_of_isIdentifier h
  rw [isName, Bool.and_eq_true] at hname
  exact Formula.mem_identifiers.mpr ⟨hword, hname.2⟩

theorem isBareWord_of_isIdentifier {n : Text} (h : isIdentifier n = true) :
    isBareWord n = true := by
  have hname := isName_of_isIdentifier h
  rw [isName, Bool.and_eq_true] at hname
  exact hname.1

theorem leftNames_subset (t : Text) : leftNames t ⊆ Formula.identifiers t := by
  rw [leftNames]
  split
  · exact List.Subset.refl _
  · split
    · rename_i hname
      intro n hn
      rw [List.mem_singleton] at hn
      rw [hn]
      refine mem_identifiers_of_isIdentifier hname ?_
      rw [openWords_of_isBareWord (isBareWord_of_isIdentifier hname)]
      exact List.mem_singleton_self t
    · exact List.nil_subset _

theorem rightNames_subset (t : Text) : rightNames t ⊆ Formula.identifiers t := by
  rw [rightNames]
  split
  · exact List.Subset.refl _
  · exact List.nil_subset _

/-- The names of a part are words of it. -/
theorem candidates_subset (part : Text) : candidates part ⊆ Formula.identifiers part := by
  rw [candidates]
  split
  · exact List.nil_subset _
  · split
    · exact List.Subset.refl _
    · rename_i comparison hcomparison
      obtain ⟨hleft, hright⟩ := Comparison.openWords_sides hcomparison
      exact List.append_subset.mpr
        ⟨List.Subset.trans (leftNames_subset _) (identifiers_mono hleft),
          List.Subset.trans (rightNames_subset _) (identifiers_mono hright)⟩

/-! ## The symbol that a part is compared at -/

theorem relationAt?_eq_none_iff : relationAt? t = none ↔
    ∀ (relation : Relation) (right : Text), t = relation.symbol ++ right → right = [] := by
  constructor
  · rintro h relation right rfl
    by_cases hnil : right = []
    · exact hnil
    · exact absurd h (relationAt?_ne_none relation hnil)
  · intro h
    cases hat : relationAt? t with
    | none => rfl
    | some found =>
        obtain ⟨hsplit, hne⟩ := relationAt?_eq_some hat
        exact absurd (h found.1 found.2 hsplit) hne

/-- No symbol with something behind it begins within the first text, where something stands
before it. -/
def IsFirstSymbol (before p s : Text) : Prop :=
  ∀ first last, p = first ++ last → before ++ first ≠ [] → last ≠ [] →
    relationAt? (last ++ s) = none

theorem isFirstSymbol_cons {before p s : Text} {d : Char} :
    IsFirstSymbol before (d :: p) s ↔ (before ≠ [] → relationAt? (d :: p ++ s) = none) ∧
      IsFirstSymbol (before ++ [d]) p s := by
  constructor
  · refine fun h => ⟨fun hne => h [] (d :: p) rfl (by simpa using hne) (by simp), ?_⟩
    rintro first last rfl - hlast
    exact h (d :: first) last rfl (by simp) hlast
  · rintro ⟨hhere, hbehind⟩ first last hsplit hne hlast
    cases first with
    | nil =>
        obtain rfl : last = d :: p := hsplit.symm
        exact hhere (by simpa using hne)
    | cons e first =>
        rw [List.cons_append, List.cons.injEq] at hsplit
        exact hbehind first last hsplit.2 (by simp) hlast

theorem find?_first {before t : Text} {comparison : Comparison}
    (h : Comparison.find? before t = some comparison) :
    ∃ p right, t = p ++ (comparison.relation.symbol ++ right) ∧ before.reverse ++ p ≠ [] ∧
      right ≠ [] ∧ comparison.left = trim (before.reverse ++ p) ∧ comparison.right = trim right ∧
      IsFirstSymbol before.reverse p (comparison.relation.symbol ++ right) := by
  induction t generalizing before with
  | nil => cases h
  | cons d t ih =>
      rw [Comparison.find?] at h
      split at h
      · rename_i relation right hat
        cases h
        split at hat
        · cases hat
        · rename_i hne
          obtain ⟨hsplit, hright⟩ := relationAt?_eq_some hat
          refine ⟨[], right, hsplit, ?_, hright, by simp, rfl, ?_⟩
          · simpa using hne
          · intro first last hnil _ hlast
            exact absurd (List.append_eq_nil_iff.mp hnil.symm).2 hlast
      · rename_i hnone
        obtain ⟨p, right, rfl, -, hright, hleft, heq, hfirst⟩ := ih h
        rw [List.reverse_cons] at hleft hfirst
        refine ⟨d :: p, right, rfl, by simp, hright, by simpa using hleft, heq,
          isFirstSymbol_cons.mpr ⟨fun hne => ?_, hfirst⟩⟩
        have hempty : before.isEmpty = false := by simpa using hne
        simpa [hempty] using hnone

theorem find?_of_first {before p s right : Text} (hne : before.reverse ++ p ≠ [])
    (hfirst : IsFirstSymbol before.reverse p s) (hat : relationAt? s = some (relation, right)) :
    Comparison.find? before (p ++ s)
      = some ⟨trim (before.reverse ++ p), relation, trim right⟩ := by
  induction p generalizing before with
  | nil =>
      cases s with
      | nil => cases hat
      | cons d s =>
          have hempty : before.isEmpty = false := by simpa using hne
          rw [List.nil_append, Comparison.find?, hempty]
          simp [hat]
  | cons d p ih =>
      obtain ⟨hhere, hbehind⟩ := isFirstSymbol_cons.mp hfirst
      have hnone : (if before.isEmpty then none else relationAt? (d :: p ++ s)) = none := by
        split
        · rfl
        · rename_i hempty
          exact hhere (by simpa using hempty)
      rw [List.cons_append] at hnone ⊢
      simp only [Comparison.find?, hnone]
      rw [ih (by simp) (by simpa using hbehind)]
      simp

/-- **Where a comparison is found**: at the first symbol with something on both sides. -/
theorem ofText?_eq_some {z : Text} {comparison : Comparison} (hz : trim z = z)
    (h : Comparison.ofText? z = some comparison) :
    ∃ p right, z = p ++ (comparison.relation.symbol ++ right) ∧ p ≠ [] ∧ right ≠ [] ∧
      comparison.left = trim p ∧ comparison.right = trim right ∧
      IsFirstSymbol [] p (comparison.relation.symbol ++ right) := by
  rw [Comparison.ofText?, hz] at h
  exact find?_first h

theorem ofText?_of_first {p s right : Text} (hz : trim (p ++ s) = p ++ s) (hp : p ≠ [])
    (hfirst : IsFirstSymbol [] p s) (hat : relationAt? s = some (relation, right)) :
    Comparison.ofText? (p ++ s) = some ⟨trim p, relation, trim right⟩ := by
  rw [Comparison.ofText?, hz]
  exact @find?_of_first relation [] p s right hp hfirst hat

theorem length_symbol_le (relation : Relation) : relation.symbol.length ≤ 2 := by
  cases relation <;> decide

/-- Whether a symbol begins within a text does not hang on what follows a symbol behind it. -/
theorem IsFirstSymbol.of_right {before p right right' : Text} (hright : right ≠ [])
    (h : IsFirstSymbol before p (relation.symbol ++ right)) :
    IsFirstSymbol before p (relation.symbol ++ right') := by
  intro first last hsplit hne hlast
  have hnone := h first last hsplit hne hlast
  rw [relationAt?_eq_none_iff] at hnone ⊢
  intro found rest heq
  have hlength : found.symbol.length ≤ (last ++ relation.symbol).length := by
    have hfound := length_symbol_le found
    have hsymbol := List.length_pos_iff.mpr (symbol_ne_nil relation)
    have := List.length_pos_iff.mpr hlast
    rw [List.length_append]
    omega
  rw [← List.append_assoc] at heq
  obtain ⟨m, hm⟩ := List.prefix_of_prefix_length_le ⟨rest, heq.symm⟩
    (List.prefix_append (last ++ relation.symbol) right') hlength
  have := hnone found (m ++ right) (by rw [← List.append_assoc, ← hm]; simp)
  exact absurd (List.append_eq_nil_iff.mp this).2 hright

/-! ## Parts written anew -/

/-- Symbols stay where they are. -/
theorem normalize_append_symbol (p : Text) (relation : Relation) (s : Text) :
    normalize (p ++ relation.symbol ++ s) = normalize p ++ relation.symbol ++ normalize s := by
  refine normalize_append_sign (symbol_ne_nil relation) (fun c => isBlank_of_mem_symbol) (.inl ?_)
  obtain ⟨d, symbol, hsymbol⟩ := List.exists_cons_of_ne_nil (symbol_ne_nil relation)
  have hd : d ∈ relation.symbol := by simp [hsymbol]
  exact ⟨d, by rw [hsymbol]; rfl, fun keyword hk hmem =>
    (isWordlike_of_mem_keywords hk d hmem).2 relation hd⟩

theorem exists_mem_symbol (relation : Relation) : ∃ c, c ∈ relation.symbol := by
  obtain ⟨c, symbol, hsymbol⟩ := List.exists_cons_of_ne_nil (symbol_ne_nil relation)
  exact ⟨c, by simp [hsymbol]⟩

/-- What stands behind the longer of two beginnings stands behind the shorter one. -/
theorem subset_of_append_eq {a b s rest : Text} (h : a ++ s = b ++ rest)
    (hle : b.length ≤ a.length) : s ⊆ rest := by
  have hlength := congrArg List.length h
  simp only [List.length_append] at hlength
  have hsuffix : rest <:+ a ++ s := ⟨b, h.symm⟩
  exact (List.suffix_of_suffix_length_le (List.suffix_append a s) hsuffix (by omega)).subset

/-- The names of a part that is not quantified. -/
theorem candidates_of_not_start {z : Text} (hne : z ≠ [])
    (hstart : hasStart "STARTS_WITH".toList z = false) :
    candidates z = match Comparison.ofText? z with
      | none => Formula.identifiers z
      | some comparison => leftNames comparison.left ++ rightNames comparison.right := by
  have hempty : z.isEmpty = false := by simpa using hne
  rw [candidates, hempty, hstart]
  rfl

theorem candidates_of_comparison {z : Text} {comparison : Comparison}
    (h : Comparison.ofText? z = some comparison) :
    candidates z ⊆ leftNames comparison.left ++ rightNames comparison.right := by
  rw [candidates]
  split
  · exact List.nil_subset _
  · rw [h]
    exact List.Subset.refl _

section Compared

variable {p right : Text}

/-- Where the text before the first symbol stays as it is, it is still the left side, and what is
written behind the symbol is no computation. -/
theorem candidates_of_right {written : Relation} {before after : Text} (hp : p ≠ [])
    (hright : right ≠ []) (hfirst : IsFirstSymbol [] p (relation.symbol ++ right))
    (htrim : trim (p ++ (relation.symbol ++ right)) = p ++ (relation.symbol ++ right))
    (hsplit : right = before ++ written.symbol ++ after) (hbefore : before ≠ []) :
    candidates (p ++ (relation.symbol ++ right)) ⊆ leftNames (trim p) := by
  subst hsplit
  cases hat : relationAt? (relation.symbol ++ (before ++ written.symbol ++ after)) with
  | none => exact absurd hat (relationAt?_ne_none relation hright)
  | some found =>
      obtain ⟨found, rest⟩ := found
      refine List.Subset.trans
        (candidates_of_comparison (ofText?_of_first htrim hp hfirst hat)) ?_
      -- The symbol that is found takes at most the first character of what is written behind.
      obtain ⟨c, hc⟩ := exists_mem_symbol written
      have hrest : c ∈ rest := by
        have hsplit := (relationAt?_eq_some hat).1
        rw [List.append_assoc, ← List.append_assoc relation.symbol] at hsplit
        refine subset_of_append_eq hsplit ?_ (List.mem_append_left _ hc)
        have := length_symbol_le found
        have := List.length_pos_iff.mpr (symbol_ne_nil relation)
        have := List.length_pos_iff.mpr hbefore
        rw [List.length_append]
        omega
      rw [rightNames_of_symbol hc (mem_trim_of_mem hrest (isBlank_of_mem_symbol hc)),
        List.append_nil]
      exact List.Subset.refl _

/-- Where a text begins with a symbol and another one comes to stand behind blanks in it, it
names nothing. -/
theorem candidates_of_left {written : Relation} {before after : Text}
    (hstart : ∃ first : Relation, ∃ rest, p = first.symbol ++ rest)
    (hsplit : p = before ++ written.symbol ++ after) (hbefore : before ≠ []) (hafter : after ≠ [])
    (htrim : trim (p ++ (relation.symbol ++ right)) = p ++ (relation.symbol ++ right)) :
    candidates (p ++ (relation.symbol ++ right)) = [] := by
  have hbehind : after ++ (relation.symbol ++ right) ≠ [] := by simp [hafter]
  have hmiddle : p ++ (relation.symbol ++ right)
      = before ++ (written.symbol ++ (after ++ (relation.symbol ++ right))) := by
    rw [hsplit]
    simp
  cases hfound : Comparison.ofText? (p ++ (relation.symbol ++ right)) with
  | none =>
      rw [Comparison.ofText?, htrim, find?_eq_none_iff] at hfound
      rcases hfound written before _ (by rw [hmiddle, List.append_assoc]) with h | h
      · exact absurd h.2 hbefore
      · exact absurd h hbehind
  | some comparison =>
      obtain ⟨p', right', heq, hp', -, hleft', hright', hfirst⟩ := ofText?_eq_some htrim hfound
      rw [← List.subset_nil]
      refine List.Subset.trans (candidates_of_comparison hfound) ?_
      -- The comparison is no further on than the symbol in the middle.
      have hlength : p'.length ≤ before.length := by
        refine Nat.le_of_not_lt fun hlt => ?_
        rw [heq] at hmiddle
        obtain ⟨last, rfl⟩ := List.prefix_of_prefix_length_le ⟨_, hmiddle.symm⟩
          (List.prefix_append p' _) (Nat.le_of_lt hlt)
        rw [List.append_assoc, List.append_cancel_left_eq] at hmiddle
        have hlast : last ≠ [] := by
          rintro rfl
          simp at hlt
        exact relationAt?_ne_none written hbehind (hmiddle ▸ hfirst before last rfl hbefore hlast)
      obtain ⟨c, hc⟩ := exists_mem_symbol relation
      have hmem : c ∈ right' := by
        rw [← List.append_assoc p'] at heq
        refine subset_of_append_eq heq ?_ (List.mem_append_left _ hc)
        have := length_symbol_le comparison.relation
        have := List.length_pos_iff.mpr (symbol_ne_nil written)
        have := List.length_pos_iff.mpr hafter
        rw [hsplit]
        simp only [List.length_append]
        omega
      obtain ⟨first, rest, rfl⟩ := hstart
      obtain ⟨d, symbol, hsymbol⟩ := List.exists_cons_of_ne_nil (symbol_ne_nil first)
      have hd : d ∈ first.symbol := by simp [hsymbol]
      have hmem' : d ∈ p' := by
        obtain ⟨e, p', rfl⟩ := List.exists_cons_of_ne_nil hp'
        rw [hsymbol] at heq
        simp only [List.cons_append, List.cons.injEq] at heq
        simp [heq.1]
      rw [hleft', hright',
        leftNames_of_symbol hd (mem_trim_of_mem hmem' (isBlank_of_mem_symbol hd)),
        rightNames_of_symbol hc (mem_trim_of_mem hmem (isBlank_of_mem_symbol hc))]
      exact List.Subset.refl _

/-- The text around the first symbol, written anew. -/
theorem trim_normalize_symbol {s : Text} (hp : p ≠ [])
    (hhead : ∀ c, p.head? = some c → isBlank c = false) (hs : isBlankText s = false) :
    trim (normalize (p ++ relation.symbol ++ s))
      = normalize p ++ (relation.symbol ++ trimRight (normalize s)) := by
  have hpfilled : isBlankText (normalize p) = false := by
    obtain ⟨c, p, rfl⟩ := List.exists_cons_of_ne_nil hp
    rw [(sameBlanks_normalize _).blank, isBlankText, List.all_cons, hhead c rfl, Bool.false_and]
  have hsfilled : isBlankText (normalize s) = false := by rw [(sameBlanks_normalize s).blank, hs]
  rw [normalize_append_symbol, trim_append hpfilled hsfilled,
    trimLeft_eq_self_of_head (head?_normalize hhead), List.append_assoc]

/-- A part with a keyword operator before its first symbol names nothing when it is written
anew: the operator is left from an earlier writing, so the part begins with a symbol. -/
theorem candidates_written_left {tail : Text} (hp : p ≠ [])
    (hhead : ∀ c, p.head? = some c → isBlank c = false)
    (hfirst : IsFirstSymbol [] p (relation.symbol ++ right))
    (hfilled : isBlankText (right ++ tail) = false)
    (hsettled : Settled (p ++ relation.symbol ++ (right ++ tail)))
    (hkeyword : ∃ keyword ∈ keywords, StandsSpaced keyword.1 p) {written : Relation}
    (hwritten : StandsSpaced written.symbol (normalize p)) :
    candidates (trim (normalize (p ++ relation.symbol ++ (right ++ tail)))) = [] := by
  obtain ⟨keyword, hk, before, after, hpsplit, hbefore, hafter⟩ := hkeyword
  have hane : after ≠ [] := by
    rintro rfl
    simp at hafter
  obtain ⟨first, found, rfl⟩ := hsettled keyword hk before
    (after ++ (relation.symbol ++ (right ++ tail))) (by rw [hpsplit]; simp) hbefore
    (by rwa [head?_append_of_ne_nil hane])
  -- A symbol further on would be the first one.
  have hnil : first = [] := by
    by_cases hnil : first = []
    · exact hnil
    have hbehind : [' '] ++ keyword.1 ++ after ++ (relation.symbol ++ right) ≠ [] := by simp
    have hnone := hfirst first (found.symbol ++ ([' '] ++ keyword.1 ++ after))
      (by rw [hpsplit]; simp) (by simpa using hnil) (by simp [symbol_ne_nil])
    exact absurd (by simpa using hnone) (relationAt?_ne_none found hbehind)
  have hstart : normalize p = found.symbol ++ normalize ([' '] ++ keyword.1 ++ after) := by
    have hpform : p = [] ++ found.symbol ++ ([' '] ++ keyword.1 ++ after) := by
      rw [hpsplit, hnil]
      simp
    rw [hpform, normalize_append_symbol]
    rfl
  obtain ⟨b, a, hsplit, hb, ha⟩ := hwritten
  have htrim := trim_trim (normalize (p ++ relation.symbol ++ (right ++ tail)))
  rw [trim_normalize_symbol hp hhead hfilled] at htrim ⊢
  refine candidates_of_left ⟨found, _, hstart⟩ hsplit ?_ ?_ htrim
  · rintro rfl
    simp at hb
  · rintro rfl
    simp at ha

/-- A part with no keyword operator before its first symbol and one behind it has no new names
when it is written anew. -/
theorem candidates_written_right {tail : Text} (hp : p ≠ []) (hright : right ≠ [])
    (hhead : ∀ c, p.head? = some c → isBlank c = false)
    (hfirst : IsFirstSymbol [] p (relation.symbol ++ right))
    (hfilled : isBlankText (right ++ tail) = false) (hsame : normalize p = p) {written : Relation}
    (hwritten : StandsSpaced written.symbol (normalize (right ++ tail))) :
    candidates (trim (normalize (p ++ relation.symbol ++ (right ++ tail))))
      ⊆ leftNames (trim p) := by
  obtain ⟨b, a, hsplit, hb, ha⟩ := hwritten
  have htrim := trim_trim (normalize (p ++ relation.symbol ++ (right ++ tail)))
  rw [trim_normalize_symbol hp hhead hfilled, hsame] at htrim ⊢
  have hne : trimRight (normalize (right ++ tail)) ≠ [] :=
    trimRight_ne_nil ((sameBlanks_normalize _).blank.trans hfilled)
  have hcut : trimRight (normalize (right ++ tail)) = b ++ written.symbol ++ trimRight a := by
    rw [hsplit]
    refine trimRight_append_of_last (fun c hc => ?_) a
    rw [getLast?_append_of_ne_nil _ (symbol_ne_nil written)] at hc
    exact isBlank_of_mem_symbol (List.mem_of_getLast? hc)
  refine candidates_of_right hp hne (hfirst.of_right hright) htrim hcut ?_
  rintro rfl
  simp at hb

end Compared

/-- **Writing keyword operators as symbols** brings no name of a settled part to light. -/
theorem candidates_normalize {q : Text} (hsettled : Settled q)
    (hhead : ∀ c, q.head? = some c → isBlank c = false)
    (hstart : hasStart "STARTS_WITH".toList (trim q) = false) :
    candidates (trim (normalize q)) ⊆ candidates (trim q) := by
  obtain ⟨tail, hsplit, -⟩ := trimRight_spec q
  rw [← trimLeft_eq_self_of_head hhead, ← trim, trimLeft_eq_self_of_head hhead] at hsplit
  have hcandidates : trim q ≠ [] → candidates (trim q) = match Comparison.ofText? (trim q) with
      | none => Formula.identifiers (trim q)
      | some comparison => leftNames comparison.left ++ rightNames comparison.right :=
    fun hne => candidates_of_not_start hne hstart
  cases hfound : Comparison.ofText? (trim q) with
  | none =>
      -- All words of the part count.
      have hall : Formula.identifiers (trim q) ⊆ candidates (trim q) := by
        by_cases hne : trim q = []
        · rw [hne]
          exact List.Subset.refl _
        · rw [hcandidates hne, hfound]
          exact List.Subset.refl _
      refine List.Subset.trans (candidates_subset _)
        (List.Subset.trans (identifiers_mono ?_) hall)
      rw [openWords_trim, openWords_trim]
      exact openWords_normalize q
  | some comparison =>
      obtain ⟨p, right, heq, hp, hright, hleft, -, hfirst⟩ :=
        ofText?_eq_some (trim_trim q) hfound
      have hq : q = p ++ comparison.relation.symbol ++ (right ++ tail) := by
        rw [hsplit, heq]
        simp
      have hleftNames : leftNames (trim p) ⊆ candidates (trim q) := by
        rw [hcandidates (by simp [heq, hp]), hfound, ← hleft]
        exact List.subset_append_left _ _
      have hphead : ∀ c, p.head? = some c → isBlank c = false := by
        intro c hc
        refine hhead c ?_
        rw [hq, List.append_assoc, head?_append_of_ne_nil hp, hc]
      have hfilled : isBlankText (right ++ tail) = false := by
        rw [isBlankText_append, Bool.and_eq_false_iff, Bool.eq_false_iff]
        refine .inl fun hblank => hright ?_
        exact (isTrimmed_trim q).right_eq_nil (by rw [heq, List.append_assoc]) hblank
      rcases normalize_cases p with hsame | ⟨hkeyword, written, hwritten⟩
      · rcases normalize_cases (right ++ tail) with hsame' | ⟨-, written, hwritten⟩
        · -- Nothing is written.
          have hnormalize : normalize q = q := by
            rw [hq, normalize_append_symbol, hsame, hsame']
          rw [hnormalize]
          exact List.Subset.refl _
        · rw [hq]
          exact List.Subset.trans
            (candidates_written_right hp hright hphead hfirst hfilled hsame hwritten)
            (hq ▸ hleftNames)
      · have hnone := candidates_written_left hp hphead hfirst hfilled (hq ▸ hsettled) hkeyword
          hwritten
        rw [hq, hnone]
        exact List.nil_subset _

end Questionnaire.Condition
