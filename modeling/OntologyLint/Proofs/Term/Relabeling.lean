import Mathlib.Logic.Function.Basic
import OntologyLint.Proofs.Graph.Facts

set_option autoImplicit false

/-! Other labels for the nodes that have no IRI. A relabeling gives no two nodes one label and
leaves IRIs and literals alone; triples are relabeled at all their terms at once. -/

namespace OntologyLint

structure Relabeling where
  toFun : Resource → Resource
  iri : ∀ text, toFun (.iri text) = .iri text
  isBlank : ∀ resource, (toFun resource).isBlank = resource.isBlank
  injective : Function.Injective toFun

namespace Relabeling

instance : CoeFun Relabeling (fun _ => Resource → Resource) := ⟨Relabeling.toFun⟩

variable {relabel : Relabeling} {resource : Resource} {text : String}

@[simp]
theorem apply_iri : relabel (.iri text) = .iri text := relabel.iri text

@[simp]
theorem apply_inj {a b : Resource} : relabel a = relabel b ↔ a = b := relabel.injective.eq_iff

@[simp]
theorem apply_eq_iri : relabel resource = .iri text ↔ resource = .iri text := by
  constructor
  · intro same
    exact relabel.injective (same.trans (relabel.iri text).symm)
  · rintro rfl
    exact apply_iri

@[simp]
theorem isIri_apply : (relabel resource).IsIri ↔ resource.IsIri := by
  rw [Resource.isIri_iff, Resource.isIri_iff, relabel.isBlank]

theorem apply_of_isIri (named : resource.IsIri) : relabel resource = resource := by
  obtain ⟨text, rfl⟩ := named
  exact apply_iri

def object (relabel : Relabeling) : Object → Object
  | .resource value => .resource (relabel value)
  | .literal value => .literal value

def triple (relabel : Relabeling) (triple : Triple) : Triple :=
  ⟨relabel triple.subject, relabel triple.predicate, relabel.object triple.object⟩

theorem exists_statement (relabel : Relabeling) (statement : Statement) :
    ∃ other : Statement, other.triple = relabel.triple statement.triple := by
  obtain ⟨subject, predicate, object⟩ := statement
  have relabeled (term : Term) (same : term.stored = relabel.object object.stored) :
      ∃ other : Statement, other.triple = relabel.triple ⟨subject, .iri predicate, object.stored⟩ := by
    refine ⟨⟨relabel subject, predicate, term⟩, ?_⟩
    rw [triple, Statement.triple, apply_iri, same]
  cases object with
  | resource value => exact relabeled (.resource (relabel value)) rfl
  | typed lexical datatype => exact relabeled (.typed lexical datatype) rfl
  | tagged lexical language => exact relabeled (.tagged lexical language) rfl

theorem object_injective (relabel : Relabeling) : Function.Injective relabel.object := by
  intro a b same
  cases a with
  | resource value =>
      cases b with
      | resource other => exact congrArg _ (relabel.injective (Object.resource.inj same))
      | literal other => cases same
  | literal value =>
      cases b with
      | resource other => cases same
      | literal other => exact same

theorem triple_injective (relabel : Relabeling) : Function.Injective relabel.triple := by
  intro a b same
  obtain ⟨subjects, predicates, objects⟩ := Triple.mk.inj same
  have subjects := relabel.injective subjects
  have predicates := relabel.injective predicates
  have objects := relabel.object_injective objects
  cases a
  cases b
  simp_all

@[simp]
theorem object_eq_resource {object : Object} {value : Resource} :
    relabel.object object = .resource value ↔
      ∃ original, object = .resource original ∧ relabel original = value := by
  cases object with
  | resource original => simp [Relabeling.object]
  | literal literal => simp [Relabeling.object]

@[simp]
theorem object_eq_literal {object : Object} {literal : Literal} :
    relabel.object object = .literal literal ↔ object = .literal literal := by
  cases object with
  | resource original => simp [Relabeling.object]
  | literal other => simp [Relabeling.object]

/-- What holds under the new labels is what held under the old ones, relabeled. -/
def Relabels (relabel : Relabeling) (holds relabeled : Triple → Prop) : Prop :=
  ∀ other, relabeled other ↔ ∃ triple, holds triple ∧ relabel.triple triple = other

namespace Relabels

variable {holds relabeled : Triple → Prop} (relabels : relabel.Relabels holds relabeled)
  {predicate : String}

include relabels

theorem triple_iff {triple : Triple} : relabeled (relabel.triple triple) ↔ holds triple := by
  rw [relabels]
  constructor
  · rintro ⟨other, known, same⟩
    rw [← relabel.triple_injective same]
    exact known
  · intro known
    exact ⟨triple, known, rfl⟩

theorem fact_iff {subject : Resource} {object : Object} :
    relabeled ⟨subject, .iri predicate, object⟩ ↔
      ∃ source target, holds ⟨source, .iri predicate, target⟩ ∧ relabel source = subject ∧
        relabel.object target = object := by
  rw [relabels]
  constructor
  · rintro ⟨⟨source, used, target⟩, known, same⟩
    obtain ⟨subjects, predicates, objects⟩ := Triple.mk.inj same
    rw [apply_eq_iri] at predicates
    subst predicates
    exact ⟨source, target, known, subjects, objects⟩
  · rintro ⟨source, target, known, rfl, rfl⟩
    refine ⟨_, known, ?_⟩
    rw [triple, apply_iri]

theorem object_iff (subject : Resource) (object : Object) :
    relabeled ⟨relabel subject, .iri predicate, relabel.object object⟩ ↔
      holds ⟨subject, .iri predicate, object⟩ := by
  rw [← relabels.triple_iff, triple, apply_iri]

theorem resource_iff {subject object : Resource} :
    relabeled ⟨relabel subject, .iri predicate, .resource (relabel object)⟩ ↔
      holds ⟨subject, .iri predicate, .resource object⟩ :=
  relabels.object_iff subject (.resource object)

theorem iri_iff {subject : Resource} {text : String} :
    relabeled ⟨relabel subject, .iri predicate, .resource (.iri text)⟩ ↔
      holds ⟨subject, .iri predicate, .resource (.iri text)⟩ := by
  rw [← relabels.resource_iff, apply_iri]

theorem literal_iff {subject : Resource} {literal : Literal} :
    relabeled ⟨relabel subject, .iri predicate, .literal literal⟩ ↔
      holds ⟨subject, .iri predicate, .literal literal⟩ :=
  relabels.object_iff subject (.literal literal)

theorem from_iff {subject : Resource} {object : Object} :
    relabeled ⟨relabel subject, .iri predicate, object⟩ ↔
      ∃ target, holds ⟨subject, .iri predicate, target⟩ ∧ relabel.object target = object := by
  rw [relabels.fact_iff]
  constructor
  · rintro ⟨source, target, known, same, leads⟩
    rw [apply_inj] at same
    subst same
    exact ⟨target, known, leads⟩
  · rintro ⟨target, known, leads⟩
    exact ⟨subject, target, known, rfl, leads⟩

theorem resource_from_iff {subject object : Resource} :
    relabeled ⟨relabel subject, .iri predicate, .resource object⟩ ↔
      ∃ target, holds ⟨subject, .iri predicate, .resource target⟩ ∧ relabel target = object := by
  rw [relabels.from_iff]
  constructor
  · rintro ⟨target, known, leads⟩
    obtain ⟨value, rfl, same⟩ := object_eq_resource.1 leads
    exact ⟨value, known, same⟩
  · rintro ⟨target, known, rfl⟩
    exact ⟨_, known, rfl⟩

theorem resource_to_iff {subject object : Resource} :
    relabeled ⟨subject, .iri predicate, .resource (relabel object)⟩ ↔
      ∃ source, holds ⟨source, .iri predicate, .resource object⟩ ∧ relabel source = subject := by
  rw [relabels.fact_iff]
  constructor
  · rintro ⟨source, target, known, same, leads⟩
    obtain ⟨value, rfl, equal⟩ := object_eq_resource.1 leads
    rw [apply_inj] at equal
    subst equal
    exact ⟨source, known, same⟩
  · rintro ⟨source, known, same⟩
    exact ⟨source, _, known, same, rfl⟩

end Relabels

end Relabeling

end OntologyLint
