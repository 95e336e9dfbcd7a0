import OntologyLint.Schema.Basic

set_option autoImplicit false

/-! Violations: one record for each rule of a schema that the data breaks. They are ordered by kind
first and then field by field, so violations of one kind stand together in a sorted set. -/

namespace OntologyLint

open Std (TransOrd LawfulEqOrd TransCmp)

inductive ViolationKind
  | domainMismatch
  | rangeMismatch
  | disjointMembership
  | datatypeMismatch
  | cardinalityMismatch
  deriving DecidableEq, Inhabited

namespace ViolationKind

def all : List ViolationKind :=
  [.domainMismatch, .rangeMismatch, .disjointMembership, .datatypeMismatch, .cardinalityMismatch]

def rank : ViolationKind → Nat
  | .domainMismatch => 0
  | .rangeMismatch => 1
  | .disjointMembership => 2
  | .datatypeMismatch => 3
  | .cardinalityMismatch => 4

def name : ViolationKind → String
  | .domainMismatch => "domain_mismatch"
  | .rangeMismatch => "range_mismatch"
  | .disjointMembership => "disjoint_class_membership"
  | .datatypeMismatch => "datatype_mismatch"
  | .cardinalityMismatch => "cardinality_mismatch"

def ofName? (name : String) : Option ViolationKind := all.find? (fun kind => kind.name = name)

instance : Ord ViolationKind := ⟨compareOn rank⟩

instance : TransOrd ViolationKind := inferInstanceAs (TransCmp (compareOn rank))

instance : LawfulEqOrd ViolationKind where
  eq_of_compare := by
    intro a b same
    have same : rank a = rank b := LawfulEqOrd.eq_of_compare same
    cases a <;> cases b <;> simp_all [rank]

end ViolationKind

inductive Violation
  /-- The subject of the triple is no instance of a declared domain. -/
  | domainMismatch (triple : Triple) (expected : Resource)
  /-- The object of the triple is no instance of a declared range. -/
  | rangeMismatch (triple : Triple) (expected : Resource)
  /-- The resource belongs to both classes of a disjoint pair. -/
  | disjointMembership (resource : Resource) (classes : DisjointPair)
  /-- The literal of the triple is no value of a declared datatype. -/
  | datatypeMismatch (triple : Triple) (expected : Resource)
  /-- The resource has a number of values that the bound does not admit. -/
  | cardinalityMismatch (resource property : Resource) (bound : Bound)
      (qualifier : Option Qualifier) (actual : Nat)
  deriving DecidableEq

namespace Violation

def kind : Violation → ViolationKind
  | .domainMismatch .. => .domainMismatch
  | .rangeMismatch .. => .rangeMismatch
  | .disjointMembership .. => .disjointMembership
  | .datatypeMismatch .. => .datatypeMismatch
  | .cardinalityMismatch .. => .cardinalityMismatch

def triple? : Violation → Option Triple
  | .domainMismatch triple _ => some triple
  | .rangeMismatch triple _ => some triple
  | .datatypeMismatch triple _ => some triple
  | _ => none

def expected? : Violation → Option Resource
  | .domainMismatch _ expected => some expected
  | .rangeMismatch _ expected => some expected
  | .datatypeMismatch _ expected => some expected
  | _ => none

def resource? : Violation → Option Resource
  | .disjointMembership resource _ => some resource
  | .cardinalityMismatch resource .. => some resource
  | _ => none

def classes? : Violation → Option DisjointPair
  | .disjointMembership _ classes => some classes
  | _ => none

def restriction? : Violation → Option Restriction
  | .cardinalityMismatch _ property bound qualifier _ => some ⟨property, bound, qualifier⟩
  | _ => none

def actual? : Violation → Option Nat
  | .cardinalityMismatch _ _ _ _ actual => some actual
  | _ => none

/-- The resource that a reader should look at first. -/
def focus : Violation → Resource
  | .domainMismatch triple _ => triple.subject
  | .rangeMismatch triple _ => triple.object.resource?.getD triple.subject
  | .disjointMembership resource _ => resource
  | .datatypeMismatch triple _ => triple.subject
  | .cardinalityMismatch resource .. => resource

def display : Violation → String
  | .domainMismatch triple expected =>
      "subject " ++ triple.subject.display ++ " of `" ++ triple.display ++
        "` is not an instance of domain " ++ expected.display
  | .rangeMismatch triple expected =>
      "object " ++ triple.object.display ++ " of `" ++ triple.display ++
        "` is not an instance of range " ++ expected.display
  | .disjointMembership resource classes =>
      resource.display ++ " is an instance of disjoint classes " ++ classes.first.display ++
        " and " ++ classes.second.display
  | .datatypeMismatch triple expected =>
      "literal " ++ triple.object.display ++ " of `" ++ triple.display ++ "` is not a valid " ++
        expected.display
  | .cardinalityMismatch resource property bound qualifier actual =>
      resource.display ++ " has " ++ toString actual ++ " value(s) for " ++
        Restriction.subjectText property qualifier ++ ", expected " ++ bound.display

instance : Ord Violation :=
  ⟨compareLex (compareOn kind) (compareLex (compareOn triple?) (compareLex (compareOn expected?)
    (compareLex (compareOn resource?) (compareLex (compareOn classes?)
      (compareLex (compareOn restriction?) (compareOn actual?))))))⟩

instance : TransOrd Violation :=
  inferInstanceAs (TransCmp
    (compareLex (compareOn kind) (compareLex (compareOn triple?) (compareLex (compareOn expected?)
      (compareLex (compareOn resource?) (compareLex (compareOn classes?)
        (compareLex (compareOn restriction?) (compareOn actual?))))))))

instance : LawfulEqOrd Violation where
  eq_of_compare := by
    intro a b same
    obtain ⟨kinds, same⟩ := Ordering.then_eq_eq.1 same
    obtain ⟨triples, same⟩ := Ordering.then_eq_eq.1 same
    obtain ⟨expecteds, same⟩ := Ordering.then_eq_eq.1 same
    obtain ⟨resources, same⟩ := Ordering.then_eq_eq.1 same
    obtain ⟨classes, same⟩ := Ordering.then_eq_eq.1 same
    obtain ⟨restrictions, actuals⟩ := Ordering.then_eq_eq.1 same
    have kinds : kind a = kind b := LawfulEqOrd.eq_of_compare kinds
    have triples : triple? a = triple? b := LawfulEqOrd.eq_of_compare triples
    have expecteds : expected? a = expected? b := LawfulEqOrd.eq_of_compare expecteds
    have resources : resource? a = resource? b := LawfulEqOrd.eq_of_compare resources
    have classes : classes? a = classes? b := LawfulEqOrd.eq_of_compare classes
    have restrictions : restriction? a = restriction? b :=
      LawfulEqOrd.eq_of_compare restrictions
    have actuals : actual? a = actual? b := LawfulEqOrd.eq_of_compare actuals
    cases a <;> cases b <;>
      simp_all [kind, triple?, expected?, resource?, classes?, restriction?, actual?]

end Violation

end OntologyLint
