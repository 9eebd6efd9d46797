import Questionnaire.Computation.Resolve
/-!
Computed values kept from one look to the next. Values are kept under the name of the block and
the position of the page in it, and are given out again until all are dropped.
-/
namespace Questionnaire.Computation

/-- What values are kept under. -/
abbrev Place := Text × Option Nat

/-- The values kept. -/
structure Cache where
  /-- The values by place. -/
  entries : List (Place × Scope) := []

namespace Cache

/-- The values kept for a place. -/
def get? (cache : Cache) (place : Place) : Option Scope := cache.entries.lookup place

/-- The number of places with values. -/
def size (cache : Cache) : Nat := cache.entries.length

/-- The values of a block and a page, which has the given position in the block or stands in
another one, and the cache with them. -/
def get (cache : Cache) (block : Block) (page : Option Page) (position : Option Nat)
    (known : Scope) : Scope × Cache :=
  match cache.get? (block.name, position) with
  | some values => (values, cache)
  | none =>
    let values := resolvePlace (some block) page known []
    (values, ⟨cache.entries ++ [((block.name, position), values)]⟩)

/-- The cache without any values. -/
def invalidate (_ : Cache) : Cache := {}

end Cache
end Questionnaire.Computation
