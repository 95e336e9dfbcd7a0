import OntologyLint.Hierarchy.TypeCache
import OntologyLint.Schema.Index
import OntologyLint.Violation.Set

set_option autoImplicit false

/-! The checks that a validation can make, what they look at, and how they ask for types. -/

namespace OntologyLint

open Std (TransOrd LawfulEqOrd TransCmp)

inductive Check
  | domainRange
  | disjointness
  | datatype
  | cardinality
  deriving DecidableEq, Inhabited

namespace Check

def all : List Check := [.domainRange, .disjointness, .datatype, .cardinality]

def rank : Check → Nat
  | .domainRange => 0
  | .disjointness => 1
  | .datatype => 2
  | .cardinality => 3

def name : Check → String
  | .domainRange => "domain-range"
  | .disjointness => "disjointness"
  | .datatype => "datatype"
  | .cardinality => "cardinality"

def ofName? (name : String) : Option Check := all.find? (fun check => check.name = name)

instance : Ord Check := ⟨compareOn rank⟩

instance : TransOrd Check := inferInstanceAs (TransCmp (compareOn rank))

instance : LawfulEqOrd Check where
  eq_of_compare := by
    intro a b same
    have same : rank a = rank b := LawfulEqOrd.eq_of_compare same
    cases a <;> cases b <;> simp_all [rank]

end Check

inductive Focus
  | triple (triple : Triple)
  | resource (resource : Resource)
  deriving DecidableEq

/-- Everything that the checks read: the data, the declarations of the schema, the view that types
are looked up in, and whether datatypes count as disjoint from ordinary classes. -/
structure Scene where
  data : View
  schema : Schema
  types : View
  datatypesDisjoint : Bool := false

/-- The scene of a data graph and a schema graph. Types are looked up in both. -/
def Scene.ofGraphs (data schema : Graph) (datatypesDisjoint : Bool) : Scene :=
  ⟨data.view, Schema.ofView schema.view, data.beside schema, datatypesDisjoint⟩

namespace Asking

def gather {α β : Type} (ask : α → Asking (List β)) : List α → Asking (List β)
  | [] => pure []
  | item :: rest => do
      let found ← ask item
      let others ← gather ask rest
      pure (found ++ others)

def countWhere {α : Type} (ask : α → Asking Bool) : List α → Asking Nat
  | [] => pure 0
  | item :: rest => do
      let accepted ← ask item
      let others ← countWhere ask rest
      pure (if accepted then others + 1 else others)

end Asking

end OntologyLint
