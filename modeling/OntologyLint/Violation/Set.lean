import OntologyLint.Violation.Basic

set_option autoImplicit false

/-! Sets of violations. A set shows its violations by kind and, within a kind, in their order. -/

namespace OntologyLint

abbrev ViolationSet : Type := SortedSet Violation

namespace ViolationSet

def extend (set : ViolationSet) (violations : List Violation) : ViolationSet :=
  violations.foldl (fun set violation => set.insert violation) set

/-- All violations of either set; the smaller one is put into the larger one. -/
def merge (left right : ViolationSet) : ViolationSet :=
  if left.size < right.size then SortedSet.union left right else SortedSet.union right left

def ofKind (set : ViolationSet) (kind : ViolationKind) : List Violation :=
  set.toList.filter (fun violation => violation.kind = kind)

def countOf (set : ViolationSet) (kind : ViolationKind) : Nat := (set.ofKind kind).length

def kinds (set : ViolationSet) : SortedSet ViolationKind :=
  SortedSet.ofList (set.toList.map Violation.kind)

end ViolationSet

end OntologyLint
