import OntologyLint.Check.Examine
import OntologyLint.Proofs.Hierarchy.Answers

set_option autoImplicit false

/-! What each check finds at one focus, as a plain function of the scene: what the check answers,
whatever types it was asked for before. -/

namespace OntologyLint

open Asking (Answers answers_pure answers_askTypes answers_gather answers_countWhere)

variable {scene : Scene} {violation : Violation}

namespace DomainRange

def lacking (scene : Scene) (declared : SortedSet Resource) (resource : Resource) :
    List Resource :=
  declared.toList.filter (fun type => !(scene.types.typesOf resource).contains type)

def found (scene : Scene) (triple : Triple) : List Violation :=
  match scene.schema.declaration? triple.predicate with
  | none => []
  | some declaration =>
      (lacking scene declaration.domains triple.subject).map (.domainMismatch triple) ++
        match triple.object with
        | .resource object =>
            (lacking scene declaration.classRanges object).map (.rangeMismatch triple)
        | .literal _ => []

theorem answers_missingClasses (declared : SortedSet Resource) (resource : Resource) :
    Answers scene.types (missingClasses scene declared resource)
      (lacking scene declared resource) := by
  unfold missingClasses
  split
  · rename_i none_declared
    have nothing : lacking scene declared resource = [] := by
      rw [lacking, List.isEmpty_iff.1 none_declared]
      rfl
    rw [nothing]
    exact answers_pure []
  · exact (answers_askTypes resource).bind (answers_pure _)

theorem answers_examine (triple : Triple) :
    Answers scene.types (examine scene triple) (found scene triple) := by
  unfold examine found
  cases scene.schema.declaration? triple.predicate with
  | none => exact answers_pure []
  | some declaration =>
      refine (answers_missingClasses declaration.domains triple.subject).bind ?_
      cases triple.object with
      | resource object =>
          exact (answers_missingClasses declaration.classRanges object).bind (answers_pure _)
      | literal value => exact (answers_pure []).bind (answers_pure _)

theorem mem_lacking {declared : SortedSet Resource} {resource type : Resource} :
    type ∈ lacking scene declared resource ↔
      type ∈ declared ∧ type ∉ scene.types.typesOf resource := by
  simp only [lacking, List.mem_filter, SortedSet.mem_toList, SortedSet.contains,
    Bool.not_eq_true', decide_eq_false_iff_not]

theorem mem_found {triple : Triple} :
    violation ∈ found scene triple ↔
      ∃ declaration, scene.schema.declaration? triple.predicate = some declaration ∧
        ((∃ type ∈ lacking scene declaration.domains triple.subject,
            .domainMismatch triple type = violation) ∨
          ∃ object, triple.object = .resource object ∧
            ∃ type ∈ lacking scene declaration.classRanges object,
              .rangeMismatch triple type = violation) := by
  unfold found
  cases scene.schema.declaration? triple.predicate with
  | none => simp
  | some declaration => cases triple.object <;> simp

end DomainRange

namespace Disjointness

def found (scene : Scene) (resource : Resource) : List Violation :=
  (disjointPairs scene (scene.types.typesOf resource).toList).map (.disjointMembership resource)

theorem answers_examine (resource : Resource) :
    Answers scene.types (examine scene resource) (found scene resource) :=
  (answers_askTypes resource).bind (answers_pure _)

theorem mem_found {resource : Resource} :
    violation ∈ found scene resource ↔
      ∃ pair ∈ disjointPairs scene (scene.types.typesOf resource).toList,
        .disjointMembership resource pair = violation :=
  List.mem_map

end Disjointness

namespace DatatypeRange

theorem mem_examine {triple : Triple} :
    violation ∈ examine scene triple ↔
      ∃ literal declaration, triple.object = .literal literal ∧
        scene.schema.declaration? triple.predicate = some declaration ∧
        ∃ datatype ∈ declaration.datatypeRanges, literalConforms literal datatype = false ∧
          .datatypeMismatch triple datatype = violation := by
  unfold examine
  cases triple.object with
  | resource object => simp
  | literal value =>
      cases scene.schema.declaration? triple.predicate with
      | none => simp
      | some declaration => simp [and_assoc, SortedSet.mem_toList]

end DatatypeRange

namespace Cardinality

def counted (scene : Scene) (qualifier : Qualifier) (value : Object) : Bool :=
  match qualifier, value with
  | .instances type, .resource resource =>
      type == .iri Owl.thing || (scene.types.typesOf resource).contains type
  | .literals datatype, .literal literal => literalConforms literal datatype
  | _, _ => false

def count (scene : Scene) (qualifier : Option Qualifier) (values : List Object) : Nat :=
  match qualifier with
  | none => values.length
  | some qualifier => values.countP (counted scene qualifier)

def broken (scene : Scene) (resource : Resource) (restriction : Restriction) : List Violation :=
  let actual := count scene restriction.qualifier
    (scene.data.objectsOf resource restriction.property.text)
  if restriction.property.isBlank || restriction.bound.admits actual then []
  else [.cardinalityMismatch resource restriction.property restriction.bound
    restriction.qualifier actual]

def found (scene : Scene) (resource : Resource) : List Violation :=
  (boundsOn scene (scene.types.typesOf resource) resource).toList.flatMap (broken scene resource)

theorem answers_qualifies (qualifier : Qualifier) (value : Object) :
    Answers scene.types (qualifies scene qualifier value) (counted scene qualifier value) := by
  cases qualifier with
  | literals datatype => cases value <;> exact answers_pure _
  | instances type =>
      cases value with
      | literal literal => exact answers_pure _
      | resource resource =>
          by_cases everything : type = .iri Owl.thing
          · simp only [qualifies, counted, everything, if_true, BEq.rfl, Bool.true_or]
            exact answers_pure true
          · simp only [qualifies, counted, if_neg everything, beq_eq_false_iff_ne.2 everything,
              Bool.false_or]
            exact (answers_askTypes resource).bind (answers_pure _)

theorem answers_countValues (qualifier : Option Qualifier) (values : List Object) :
    Answers scene.types (countValues scene qualifier values) (count scene qualifier values) := by
  cases qualifier with
  | none => exact answers_pure _
  | some qualifier =>
      exact answers_countWhere (fun value _ => answers_qualifies qualifier value)

theorem answers_examineBound (resource : Resource) (restriction : Restriction) :
    Answers scene.types (examineBound scene resource restriction)
      (broken scene resource restriction) := by
  unfold examineBound broken
  cases blank : restriction.property.isBlank with
  | true => exact answers_pure []
  | false => exact (answers_countValues _ _).bind (answers_pure _)

theorem answers_examine (resource : Resource) :
    Answers scene.types (examine scene resource) (found scene resource) :=
  (answers_askTypes resource).bind
    (answers_gather (fun restriction _ => answers_examineBound resource restriction))

theorem mem_broken {resource : Resource} {restriction : Restriction} :
    violation ∈ broken scene resource restriction ↔
      ∃ actual, actual = count scene restriction.qualifier
          (scene.data.objectsOf resource restriction.property.text) ∧
        restriction.property.isBlank = false ∧ restriction.bound.admits actual = false ∧
        violation = .cardinalityMismatch resource restriction.property restriction.bound
          restriction.qualifier actual := by
  unfold broken
  cases restriction.property.isBlank with
  | true => simp
  | false => simp

theorem mem_found {resource : Resource} :
    violation ∈ found scene resource ↔
      ∃ restriction ∈ boundsOn scene (scene.types.typesOf resource) resource,
        violation ∈ broken scene resource restriction :=
  List.mem_flatMap

end Cardinality

def ViolationKind.check : ViolationKind → Check
  | .domainMismatch => .domainRange
  | .rangeMismatch => .domainRange
  | .disjointMembership => .disjointness
  | .datatypeMismatch => .datatype
  | .cardinalityMismatch => .cardinality

namespace Check

/-- What a check finds at a focus. At a focus of the wrong sort it finds nothing. -/
def found (check : Check) (scene : Scene) (focus : Focus) : List Violation :=
  match check, focus with
  | .domainRange, .triple triple => DomainRange.found scene triple
  | .disjointness, .resource resource => Disjointness.found scene resource
  | .datatype, .triple triple => DatatypeRange.examine scene triple
  | .cardinality, .resource resource => Cardinality.found scene resource
  | _, _ => []

theorem answers_examine (check : Check) (focus : Focus) :
    Answers scene.types (check.examine scene focus) (check.found scene focus) := by
  cases check with
  | domainRange =>
      cases focus with
      | triple triple => exact DomainRange.answers_examine triple
      | resource resource => exact answers_pure []
  | disjointness =>
      cases focus with
      | triple triple => exact answers_pure []
      | resource resource => exact Disjointness.answers_examine resource
  | datatype =>
      cases focus with
      | triple triple => exact answers_pure (DatatypeRange.examine scene triple)
      | resource resource => exact answers_pure []
  | cardinality =>
      cases focus with
      | triple triple => exact answers_pure []
      | resource resource => exact Cardinality.answers_examine resource

theorem check_of_mem_found {check : Check} {focus : Focus}
    (member : violation ∈ check.found scene focus) : violation.kind.check = check := by
  cases check with
  | domainRange =>
      cases focus with
      | resource resource => cases member
      | triple triple =>
          obtain ⟨declaration, _declared, lacked⟩ := DomainRange.mem_found.1 member
          rcases lacked with ⟨type, _lacked, rfl⟩ | ⟨object, _object, type, _lacked, rfl⟩
          · rfl
          · rfl
  | disjointness =>
      cases focus with
      | triple triple => cases member
      | resource resource =>
          obtain ⟨pair, _disjoint, rfl⟩ := Disjointness.mem_found.1 member
          rfl
  | datatype =>
      cases focus with
      | resource resource => cases member
      | triple triple =>
          obtain ⟨literal, declaration, _literal, _declared, datatype, _range, _fails, rfl⟩ :=
            DatatypeRange.mem_examine.1 member
          rfl
  | cardinality =>
      cases focus with
      | triple triple => cases member
      | resource resource =>
          obtain ⟨restriction, _bound, breaks⟩ := Cardinality.mem_found.1 member
          obtain ⟨actual, _counted, _named, _refused, rfl⟩ := Cardinality.mem_broken.1 breaks
          rfl

end Check

end OntologyLint
