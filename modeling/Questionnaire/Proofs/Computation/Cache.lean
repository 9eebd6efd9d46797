import Questionnaire.Computation.Cache
import Questionnaire.Source.Compile

/-!
# Kept values are those computed anew

A cache is asked for the values of blocks and pages and is told to drop what it
keeps. What it holds was computed for some earlier look since it was last
emptied (`Keeps`), so a look is answered as if it were computed anew whenever
looks at one place in that time look at the same computations over the same
variables (`answers_eq`). Blocks of one name are one place to a cache: where
they compute different values, the second is given those of the first.
-/

namespace Questionnaire.Computation

open Text

/-! ## What a cache is asked -/

/-- A look at the values of a block, or of one of its pages. -/
structure Look where
  /-- The block. -/
  block : Block
  /-- The position of the page in the block, if a page is looked at. -/
  position : Option (Fin block.pages.length)
  /-- The variables at the time. -/
  known : Scope

namespace Look

/-- The page that is looked at. -/
def page? (look : Look) : Option Page := look.position.map fun i => look.block.pages[i]

/-- What the values are kept under. -/
def place (look : Look) : Place := (look.block.name, look.position.map Fin.val)

/-- The computations of the block and of the page. -/
def scopes (look : Look) : List (List Computation) := scopesOf (some look.block) look.page?

/-- The values computed anew. -/
def values (look : Look) : Scope := resolvePlace (some look.block) look.page? look.known []

theorem values_congr {look other : Look} (hscopes : look.scopes = other.scopes)
    (hknown : look.known = other.known) : look.values = other.values := by
  show resolveScopes look.scopes look.known [] = resolveScopes other.scopes other.known []
  rw [hscopes, hknown]

end Look

/-- What is asked of a cache. -/
inductive Request where
  /-- The values of a block or a page. -/
  | get (look : Look)
  /-- To drop all values. -/
  | invalidate

namespace Request

/-- The values that a request asks for, computed anew. -/
def values? : Request → Option Scope
  | .get look => some look.values
  | .invalidate => none

/-- The looks of a run between one invalidation and the next, given those that come before the
requests. -/
def roundsFrom (seen : List Look) : List Request → List (List Look)
  | [] => [seen]
  | .get look :: rest => roundsFrom (seen ++ [look]) rest
  | .invalidate :: rest => seen :: roundsFrom [] rest

/-- The looks of a run, cut at the invalidations. -/
def rounds (requests : List Request) : List (List Look) := roundsFrom [] requests

/-- The variables stay the same between two invalidations. -/
def Steady (requests : List Request) : Prop :=
  ∀ round ∈ rounds requests, ∀ look ∈ round, ∀ other ∈ round, look.known = other.known

/-- Looks at one place between two invalidations look at the same computations. -/
def Separated (requests : List Request) : Prop :=
  ∀ round ∈ rounds requests, ∀ look ∈ round, ∀ other ∈ round,
    look.place = other.place → look.scopes = other.scopes

/-- The looks so far belong to the round under way. -/
theorem exists_round (seen : List Look) (requests : List Request) :
    ∃ round ∈ roundsFrom seen requests, seen ⊆ round := by
  induction requests generalizing seen with
  | nil => exact ⟨seen, by simp [roundsFrom], List.Subset.refl _⟩
  | cons request rest ih =>
      cases request with
      | get look =>
          obtain ⟨round, hround, hsub⟩ := ih (seen ++ [look])
          exact ⟨round, hround, List.Subset.trans (List.subset_append_left _ _) hsub⟩
      | invalidate => exact ⟨seen, by simp [roundsFrom], List.Subset.refl _⟩

/-- The looks of a round are among those so far and those asked for. -/
theorem mem_of_mem_roundsFrom {seen round : List Look} {requests : List Request} {look : Look}
    (hround : round ∈ roundsFrom seen requests) (hlook : look ∈ round) :
    look ∈ seen ∨ .get look ∈ requests := by
  induction requests generalizing seen with
  | nil =>
      rw [roundsFrom, List.mem_singleton] at hround
      exact .inl (hround ▸ hlook)
  | cons request rest ih =>
      cases request with
      | get asked =>
          rcases ih hround with h | h
          · rcases List.mem_append.mp h with h | h
            · exact .inl h
            · exact .inr (List.mem_singleton.mp h ▸ List.mem_cons_self)
          · exact .inr (List.mem_cons_of_mem _ h)
      | invalidate =>
          rcases List.mem_cons.mp hround with rfl | hround
          · exact .inl hlook
          · exact .inr (List.mem_cons_of_mem _ ((ih hround).resolve_left (List.not_mem_nil)))

private theorem block_eq_of_name_eq {blocks : List Block}
    (hnames : (blocks.map Block.name).Nodup) {block other : Block} (hblock : block ∈ blocks)
    (hother : other ∈ blocks) (h : block.name = other.name) : block = other := by
  induction blocks with
  | nil => exact absurd hblock List.not_mem_nil
  | cons first rest ih =>
      rw [List.map_cons, List.nodup_cons] at hnames
      have hne : ∀ {b : Block}, b ∈ rest → b.name ≠ first.name :=
        fun hb hname => hnames.1 (hname ▸ List.mem_map_of_mem hb)
      rcases List.mem_cons.mp hblock with hfirst | hblock
      · rcases List.mem_cons.mp hother with hfirst' | hother
        · exact hfirst.trans hfirst'.symm
        · exact absurd (h.symm.trans (congrArg Block.name hfirst)) (hne hother)
      · rcases List.mem_cons.mp hother with hfirst' | hother
        · exact absurd (h.trans (congrArg Block.name hfirst')) (hne hblock)
        · exact ih hnames.2 hblock hother

/-- In a survey whose blocks have names of their own, a place tells the computations. -/
theorem separated_of_nodup {survey : Survey} {requests : List Request}
    (hnames : (survey.blocks.map Block.name).Nodup)
    (hblocks : ∀ look, .get look ∈ requests → look.block ∈ survey.blocks) :
    Separated requests := by
  intro round hround look hlook other hother hplace
  have hmem : ∀ asked ∈ round, asked.block ∈ survey.blocks := fun asked hasked =>
    hblocks asked ((mem_of_mem_roundsFrom hround hasked).resolve_left List.not_mem_nil)
  obtain ⟨hname, hposition⟩ := Prod.mk.inj hplace
  have hblock : look.block = other.block :=
    block_eq_of_name_eq hnames (hmem look hlook) (hmem other hother) hname
  obtain ⟨block, position, known⟩ := look
  obtain ⟨_, otherPosition, otherKnown⟩ := other
  obtain rfl := hblock
  obtain rfl : position = otherPosition := by
    cases position <;> cases otherPosition <;> simp_all [Fin.ext_iff]
  rfl

end Request

/-! ## One request -/

namespace Cache

/-- The answer to a request, and the cache behind it. -/
def answer (cache : Cache) : Request → Option Scope × Cache
  | .get look =>
    let found := cache.get look.block look.page? (look.position.map Fin.val) look.known
    (some found.1, found.2)
  | .invalidate => (none, cache.invalidate)

/-- The answers to requests in order. -/
def answers (cache : Cache) : List Request → List (Option Scope)
  | [] => []
  | request :: rest => (cache.answer request).1 :: answers (cache.answer request).2 rest

/-- What the cache keeps was computed for one of the looks. -/
def Keeps (cache : Cache) (seen : List Look) : Prop :=
  ∀ place values, cache.get? place = some values →
    ∃ look ∈ seen, look.place = place ∧ look.values = values

theorem keeps_empty (seen : List Look) : Keeps {} seen := by
  intro place values h
  cases h

/-- **A look is answered as if it were computed anew**, if the looks at its place
before it looked at the same computations over the same variables. -/
theorem answer_look {cache : Cache} {seen : List Look} {look : Look} (hkeeps : cache.Keeps seen)
    (hknown : ∀ other ∈ seen, other.known = look.known)
    (hscopes : ∀ other ∈ seen, other.place = look.place → other.scopes = look.scopes) :
    (cache.answer (.get look)).1 = some look.values ∧
      (cache.answer (.get look)).2.Keeps (seen ++ [look]) := by
  cases hfound : cache.get? look.place with
  | some values =>
      have hget : cache.answer (.get look) = (some values, cache) := by
        rw [Look.place] at hfound
        simp only [answer, get, hfound]
      obtain ⟨other, hmem, hplace, hvalues⟩ := hkeeps _ _ hfound
      have hsame : values = look.values :=
        hvalues ▸ Look.values_congr (hscopes other hmem hplace) (hknown other hmem)
      rw [hget]
      refine ⟨congrArg some hsame, fun place values h => ?_⟩
      obtain ⟨other, hmem, h⟩ := hkeeps place values h
      exact ⟨other, List.mem_append_left _ hmem, h⟩
  | none =>
      have hget : cache.answer (.get look)
          = (some look.values, ⟨cache.entries ++ [(look.place, look.values)]⟩) := by
        rw [Look.place] at hfound
        simp only [answer, get, hfound]
        rfl
      rw [hget]
      refine ⟨rfl, fun place values h => ?_⟩
      simp only [get?, List.lookup_append, Option.or_eq_some_iff] at h
      rcases h with h | ⟨_, h⟩
      · obtain ⟨other, hmem, h⟩ := hkeeps place values h
        exact ⟨other, List.mem_append_left _ hmem, h⟩
      · refine ⟨look, by simp, ?_⟩
        by_cases hplace : place = look.place
        · subst hplace
          exact ⟨rfl, by simpa using h⟩
        · have hne : (place == look.place) = false := by simpa using hplace
          simp [List.lookup_cons, hne] at h

/-! ## Runs -/

/-- The answers of a cache that keeps what was computed for the looks so far. -/
theorem answers_of_keeps {requests : List Request} {cache : Cache} {seen : List Look}
    (hkeeps : cache.Keeps seen)
    (hsteady : ∀ round ∈ Request.roundsFrom seen requests, ∀ look ∈ round, ∀ other ∈ round,
      look.known = other.known)
    (hseparated : ∀ round ∈ Request.roundsFrom seen requests, ∀ look ∈ round, ∀ other ∈ round,
      look.place = other.place → look.scopes = other.scopes) :
    cache.answers requests = requests.map Request.values? := by
  induction requests generalizing cache seen with
  | nil => rfl
  | cons request rest ih =>
      cases request with
      | invalidate =>
          have hrest : cache.invalidate.answers rest = rest.map Request.values? :=
            ih (keeps_empty [])
              (fun round h => hsteady round (List.mem_cons_of_mem _ h))
              (fun round h => hseparated round (List.mem_cons_of_mem _ h))
          rw [answers, answer, hrest]
          rfl
      | get look =>
          -- The look and those before it stand in one round.
          obtain ⟨round, hround, hsub⟩ := Request.exists_round (seen ++ [look]) rest
          have hlook : look ∈ round := hsub (by simp)
          have hseen : ∀ other ∈ seen, other ∈ round :=
            fun other h => hsub (List.mem_append_left _ h)
          obtain ⟨hanswer, hkept⟩ := answer_look hkeeps
            (fun other h => hsteady round hround other (hseen other h) look hlook)
            (fun other h => hseparated round hround other (hseen other h) look hlook)
          rw [answers, hanswer, ih hkept hsteady hseparated]
          rfl

/-- **A cache is transparent**: every look of a run is answered with the values that
would be computed anew, if the variables change at invalidations only, and if
between two invalidations blocks of one name that are looked at without a page, or
at pages of one position, have the same computations there. -/
theorem answers_eq {requests : List Request} (hsteady : Request.Steady requests)
    (hseparated : Request.Separated requests) :
    answers {} requests = requests.map Request.values? :=
  answers_of_keeps (keeps_empty []) hsteady hseparated

/-- Two blocks of one name that compute different values. -/
def twinSource : Text :=
  "BLOCK: A\nCOMPUTE: x = true\n# One\nBLOCK: A\nCOMPUTE: y = true\n# Two".toList

/-- The first block of `twinSource`. -/
def firstTwin : Block :=
  { name := "A".toList, computations := [⟨"x".toList, "true".toList⟩]
    pages := [{ title := "One".toList }] }

/-- The second block of `twinSource`. -/
def secondTwin : Block :=
  { name := "A".toList, computations := [⟨"y".toList, "true".toList⟩]
    pages := [{ title := "Two".toList }] }

/-- The survey of `twinSource`. -/
def twinSurvey : Survey := { name := [], blocks := [firstTwin, secondTwin] }

theorem compile_twinSource :
    (Source.compile twinSource [] true).result.toOption = some twinSurvey := by
  decide +kernel

/-- A look at the first block and one at its page, twice, and one at the second block after an
invalidation, with other variables. -/
def steadyRequests : List Request :=
  [.get ⟨firstTwin, none, []⟩, .get ⟨firstTwin, some ⟨0, by decide⟩, []⟩,
    .get ⟨firstTwin, none, []⟩, .invalidate, .get ⟨secondTwin, none, [("a".toList, .bool true)]⟩]

theorem answers_steadyRequests :
    Request.Steady steadyRequests ∧ Request.Separated steadyRequests ∧
      answers {} steadyRequests = steadyRequests.map Request.values? := by
  have hsteady : Request.Steady steadyRequests := by
    intro round hround
    simp only [steadyRequests, Request.rounds, Request.roundsFrom, List.nil_append,
      List.cons_append, List.mem_cons, List.not_mem_nil, or_false] at hround
    rcases hround with rfl | rfl <;> simp
  have hseparated : Request.Separated steadyRequests := by
    intro round hround
    simp only [steadyRequests, Request.rounds, Request.roundsFrom, List.nil_append,
      List.cons_append, List.mem_cons, List.not_mem_nil, or_false] at hround
    rcases hround with rfl | rfl <;> simp [Look.place]
  exact ⟨hsteady, hseparated, answers_eq hsteady hseparated⟩

/-- A look at each of the two blocks. -/
def twinRequests : List Request := [.get ⟨firstTwin, none, []⟩, .get ⟨secondTwin, none, []⟩]

/-- **Blocks of one name are not told apart**: the second block of `twinSource` is given
the values of the first, though the variables are the same. -/
theorem answers_twinRequests :
    (Source.compile twinSource [] true).result.toOption = some twinSurvey ∧
      twinSurvey.blocks = [firstTwin, secondTwin] ∧ Request.Steady twinRequests ∧
      answers {} twinRequests ≠ twinRequests.map Request.values? := by
  refine ⟨compile_twinSource, rfl, ?_, fun h => ?_⟩
  · intro round hround
    simp only [twinRequests, Request.rounds, Request.roundsFrom, List.nil_append,
      List.cons_append, List.mem_singleton] at hround
    subst hround
    simp
  · -- Only the values of the second block have its name among them.
    have hnames := congrArg (List.map fun values => (values.map (·.has "y".toList)).getD false) h
    exact absurd hnames (by decide +kernel)

end Cache
end Questionnaire.Computation
