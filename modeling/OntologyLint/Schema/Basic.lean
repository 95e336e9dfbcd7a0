import OntologyLint.Term.Display

set_option autoImplicit false

/-! What a schema can say about classes and properties: pairs of disjoint classes, bounds on the
number of values, and restrictions that place a bound on a property. -/

namespace OntologyLint

open Std (TransOrd LawfulEqOrd TransCmp)

/-- Two distinct classes that share no instance, the smaller first. -/
structure DisjointPair where
  first : Resource
  second : Resource
  increasing : compare first second = .lt
  deriving DecidableEq

namespace DisjointPair

def of? (a b : Resource) : Option DisjointPair :=
  if before : compare a b = .lt then some ⟨a, b, before⟩
  else if after : compare b a = .lt then some ⟨b, a, after⟩
  else none

instance : Ord DisjointPair := ⟨compareLex (compareOn first) (compareOn second)⟩

instance : TransOrd DisjointPair :=
  inferInstanceAs (TransCmp (compareLex (compareOn first) (compareOn second)))

instance : LawfulEqOrd DisjointPair where
  eq_of_compare := by
    intro a b same
    obtain ⟨firsts, seconds⟩ := Ordering.then_eq_eq.1 same
    have firsts := LawfulEqOrd.eq_of_compare firsts
    have seconds := LawfulEqOrd.eq_of_compare seconds
    cases a; cases b; simp_all

end DisjointPair

/-- How many values of a property a subject may have. -/
inductive Bound
  | min (count : Nat)
  | max (count : Nat)
  | exact (count : Nat)
  deriving DecidableEq, Inhabited

namespace Bound

def admits (count : Nat) : Bound → Bool
  | .min least => least ≤ count
  | .max most => count ≤ most
  | .exact only => count = only

def display : Bound → String
  | .min count => "at least " ++ toString count
  | .max count => "at most " ++ toString count
  | .exact count => "exactly " ++ toString count

def rank : Bound → Nat
  | .min _ => 0
  | .max _ => 1
  | .exact _ => 2

def count : Bound → Nat
  | .min count => count
  | .max count => count
  | .exact count => count

instance : Ord Bound := ⟨compareLex (compareOn rank) (compareOn count)⟩

instance : TransOrd Bound :=
  inferInstanceAs (TransCmp (compareLex (compareOn rank) (compareOn count)))

instance : LawfulEqOrd Bound where
  eq_of_compare := by
    intro a b same
    obtain ⟨ranks, counts⟩ := Ordering.then_eq_eq.1 same
    have ranks := LawfulEqOrd.eq_of_compare ranks
    have counts := LawfulEqOrd.eq_of_compare counts
    cases a <;> cases b <;> simp_all [rank, count]

end Bound

/-- Which values a bound counts: instances of a class, or literals of a datatype. -/
inductive Qualifier
  | instances (type : Resource)
  | literals (datatype : Resource)
  deriving DecidableEq, Inhabited

namespace Qualifier

def resource : Qualifier → Resource
  | .instances type => type
  | .literals datatype => datatype

def isLiterals : Qualifier → Bool
  | .instances _ => false
  | .literals _ => true

def display (qualifier : Qualifier) : String := qualifier.resource.display

instance : Ord Qualifier := ⟨compareLex (compareOn isLiterals) (compareOn resource)⟩

instance : TransOrd Qualifier :=
  inferInstanceAs (TransCmp (compareLex (compareOn isLiterals) (compareOn resource)))

instance : LawfulEqOrd Qualifier where
  eq_of_compare := by
    intro a b same
    obtain ⟨kinds, resources⟩ := Ordering.then_eq_eq.1 same
    have kinds := LawfulEqOrd.eq_of_compare kinds
    have resources := LawfulEqOrd.eq_of_compare resources
    cases a <;> cases b <;> simp_all [isLiterals, resource]

end Qualifier

/-- A bound on one property; without a qualifier it counts every value. -/
structure Restriction where
  property : Resource
  bound : Bound
  qualifier : Option Qualifier := none
  deriving DecidableEq, Inhabited

namespace Restriction

def subjectText (property : Resource) (qualifier : Option Qualifier) : String :=
  match qualifier with
  | none => property.display
  | some qualifier => property.display ++ " in " ++ qualifier.display

instance : Ord Restriction :=
  ⟨compareLex (compareOn property) (compareLex (compareOn bound) (compareOn qualifier))⟩

instance : TransOrd Restriction :=
  inferInstanceAs (TransCmp
    (compareLex (compareOn property) (compareLex (compareOn bound) (compareOn qualifier))))

instance : LawfulEqOrd Restriction where
  eq_of_compare := by
    intro a b same
    obtain ⟨properties, rest⟩ := Ordering.then_eq_eq.1 same
    obtain ⟨bounds, qualifiers⟩ := Ordering.then_eq_eq.1 rest
    have properties := LawfulEqOrd.eq_of_compare properties
    have bounds := LawfulEqOrd.eq_of_compare bounds
    have qualifiers := LawfulEqOrd.eq_of_compare qualifiers
    cases a; cases b; simp_all

end Restriction

end OntologyLint
