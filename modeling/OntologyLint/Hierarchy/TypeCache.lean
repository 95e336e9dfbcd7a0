import OntologyLint.Hierarchy.Closure

set_option autoImplicit false

/-! Remembered type sets. The first question about a resource computes its classes and every later
one recalls them; the cache counts both sorts of question. -/

namespace OntologyLint

/-- How often a cache could recall an answer, and how many answers it holds. -/
structure CacheCounts where
  cached : Nat := 0
  hits : Nat := 0
  misses : Nat := 0
  deriving DecidableEq, Inhabited

def CacheCounts.lookups (counts : CacheCounts) : Nat := counts.hits + counts.misses

/-- The type sets asked for so far. -/
structure TypeCache where
  entries : List (Resource × SortedSet Resource) := []
  hits : Nat := 0
  misses : Nat := 0
  deriving Inhabited

namespace TypeCache

def empty : TypeCache := {}

def lookup? (cache : TypeCache) (resource : Resource) : Option (SortedSet Resource) :=
  (cache.entries.find? (fun entry => entry.1 = resource)).map Prod.snd

def counts (cache : TypeCache) : CacheCounts := ⟨cache.entries.length, cache.hits, cache.misses⟩

end TypeCache

abbrev Asking (α : Type) : Type := StateM TypeCache α

/-- The classes of a resource, recalled if they were asked for before. -/
def View.askTypes (view : View) (resource : Resource) : Asking (SortedSet Resource) := fun cache =>
  match cache.lookup? resource with
  | some types => (types, { cache with hits := cache.hits + 1 })
  | none =>
      let types := view.typesOf resource
      (types, { cache with
        entries := (resource, types) :: cache.entries
        misses := cache.misses + 1 })

end OntologyLint
