import OntologyLint.Proofs.Hierarchy.Lookups
import OntologyLint.Proofs.Validation.Evaluation

set_option autoImplicit false

/-! Which resources the checks look up, as a plain list for each focus, and the report of a
sequential validation told by what its checks find and look up at their targets. -/

namespace OntologyLint

open Asking (Answers answers_pure answers_askTypes answers_gather)
open Asking (LooksUp looksUp_pure looksUp_askTypes looksUp_gather looksUp_countWhere)

section Checks

variable {scene : Scene}

namespace DomainRange

/-- A resource is looked up only where classes are declared for it. -/
def lookedUpFor (declared : SortedSet Resource) (resource : Resource) : List Resource :=
  if declared.isEmpty then [] else [resource]

def lookedUp (scene : Scene) (triple : Triple) : List Resource :=
  match scene.schema.declaration? triple.predicate with
  | none => []
  | some declaration =>
      lookedUpFor declaration.domains triple.subject ++
        match triple.object with
        | .resource object => lookedUpFor declaration.classRanges object
        | .literal _ => []

theorem looksUp_missingClasses (declared : SortedSet Resource) (resource : Resource) :
    LooksUp scene.types (missingClasses scene declared resource)
      (lookedUpFor declared resource) := by
  unfold missingClasses lookedUpFor
  split
  · exact looksUp_pure []
  · exact (looksUp_askTypes resource).map (answers_askTypes resource)

theorem looksUp_examine (triple : Triple) :
    LooksUp scene.types (examine scene triple) (lookedUp scene triple) := by
  unfold examine lookedUp
  cases scene.schema.declaration? triple.predicate with
  | none => exact looksUp_pure []
  | some declaration =>
      refine (looksUp_missingClasses declaration.domains triple.subject).bind
        (answers_missingClasses declaration.domains triple.subject) ?_
      cases triple.object with
      | resource object =>
          exact (looksUp_missingClasses declaration.classRanges object).map
            (answers_missingClasses declaration.classRanges object)
      | literal value => exact (looksUp_pure []).map (answers_pure [])

end DomainRange

namespace Disjointness

theorem looksUp_examine (resource : Resource) :
    LooksUp scene.types (examine scene resource) [resource] :=
  (looksUp_askTypes resource).map (answers_askTypes resource)

end Disjointness

namespace Cardinality

/-- A value is looked up where the qualifier is a class that not everything belongs to. -/
def lookedUpBy (qualifier : Qualifier) (value : Object) : List Resource :=
  match qualifier, value with
  | .instances type, .resource resource => if type = .iri Owl.thing then [] else [resource]
  | _, _ => []

def lookedUpAmong (qualifier : Option Qualifier) (values : List Object) : List Resource :=
  match qualifier with
  | none => []
  | some qualifier => values.flatMap (lookedUpBy qualifier)

def lookedUpFor (scene : Scene) (resource : Resource) (restriction : Restriction) :
    List Resource :=
  if restriction.property.isBlank then []
  else lookedUpAmong restriction.qualifier
    (scene.data.objectsOf resource restriction.property.text)

/-- The resource itself, and then what its bounds look up, bound after bound. -/
def lookedUp (scene : Scene) (resource : Resource) : List Resource :=
  resource :: (boundsOn scene (scene.types.typesOf resource) resource).toList.flatMap
    (lookedUpFor scene resource)

theorem looksUp_qualifies (qualifier : Qualifier) (value : Object) :
    LooksUp scene.types (qualifies scene qualifier value) (lookedUpBy qualifier value) := by
  cases qualifier with
  | literals datatype => cases value <;> exact looksUp_pure _
  | instances type =>
      cases value with
      | literal literal => exact looksUp_pure _
      | resource resource =>
          simp only [qualifies, lookedUpBy]
          split
          · exact looksUp_pure _
          · exact (looksUp_askTypes resource).map (answers_askTypes resource)

theorem looksUp_countValues (qualifier : Option Qualifier) (values : List Object) :
    LooksUp scene.types (countValues scene qualifier values)
      (lookedUpAmong qualifier values) := by
  cases qualifier with
  | none => exact looksUp_pure _
  | some qualifier =>
      exact looksUp_countWhere (answers_qualifies qualifier) (looksUp_qualifies qualifier) values

theorem looksUp_examineBound (resource : Resource) (restriction : Restriction) :
    LooksUp scene.types (examineBound scene resource restriction)
      (lookedUpFor scene resource restriction) := by
  unfold examineBound lookedUpFor
  split
  · exact looksUp_pure []
  · exact (looksUp_countValues _ _).map (answers_countValues _ _)

theorem looksUp_examine (resource : Resource) :
    LooksUp scene.types (examine scene resource) (lookedUp scene resource) :=
  (looksUp_askTypes resource).bind (answers_askTypes resource)
    (looksUp_gather (answers_examineBound resource) (looksUp_examineBound resource) _)

end Cardinality

namespace Check

/-- The resources that a check looks up at a focus, in order. -/
def lookedUp (check : Check) (scene : Scene) (focus : Focus) : List Resource :=
  match check, focus with
  | .domainRange, .triple triple => DomainRange.lookedUp scene triple
  | .disjointness, .resource resource => [resource]
  | .cardinality, .resource resource => Cardinality.lookedUp scene resource
  | _, _ => []

theorem looksUp_examine (check : Check) (focus : Focus) :
    LooksUp scene.types (check.examine scene focus) (check.lookedUp scene focus) := by
  cases check with
  | domainRange =>
      cases focus with
      | triple triple => exact DomainRange.looksUp_examine triple
      | resource resource => exact looksUp_pure []
  | disjointness =>
      cases focus with
      | triple triple => exact looksUp_pure []
      | resource resource => exact Disjointness.looksUp_examine resource
  | datatype => cases focus <;> exact looksUp_pure _
  | cardinality =>
      cases focus with
      | triple triple => exact looksUp_pure []
      | resource resource => exact Cardinality.looksUp_examine resource

theorem looksUp_evaluate (check : Check) (targets : List Focus) :
    LooksUp scene.types (check.evaluate scene false targets)
      (targets.flatMap (check.lookedUp scene)) :=
  (looksUp_gather check.answers_examine check.looksUp_examine targets).map
    (answers_gather (fun focus _ => check.answers_examine focus))

end Check

end Checks

/-! A sequential validation goes through the targets of a check in some order. -/

section Runs

variable {scene : Scene} {targets : Check → List Focus}

theorem Check.looksUp_runAt (check : Check) (targets : List Focus) :
    LooksUp scene.types (check.runAt scene false targets)
      (targets.flatMap (check.lookedUp scene)) :=
  (check.looksUp_evaluate targets).map (check.answers_evaluate false targets)

/-- The resources that a run looks up, check after check and target after target. -/
def lookedUpAt (scene : Scene) (targets : Check → List Focus) (checks : List Check) :
    List Resource :=
  checks.flatMap (fun check => (targets check).flatMap (check.lookedUp scene))

theorem looksUp_runChecksAt (checks : List Check) (violations : ViolationSet) :
    LooksUp scene.types (runChecksAt scene false targets checks violations)
      (lookedUpAt scene targets checks) := by
  -- Each check starts from the violations of those before it, which nothing that is asked hangs on.
  induction checks generalizing violations with
  | nil => exact looksUp_pure _
  | cons check rest ih =>
      exact (check.looksUp_runAt (targets check)).bind (check.answers_runAt false (targets check))
        ((ih _).map (answers_runChecksAt false targets rest _))

/-- The report of a sequential run over graphs of the given sizes. -/
def reportAt (scene : Scene) (targets : Check → List Focus) (checks : List Check)
    (dataTriples schemaTriples : Nat) : Report :=
  let ((violations, figures), cache) :=
    (runChecksAt scene false targets checks ∅).run TypeCache.empty
  { violations
    stats := {
      dataTriples
      schemaTriples
      declaredProperties := scene.schema.properties.length
      disjointPairs := scene.schema.disjoint.size
      checks := figures
      cache := cache.counts } }

theorem Options.run_eq_reportAt {options : Options} (sequential : options.parallel = false)
    (data schema : Graph) :
    options.run data schema =
      reportAt (options.scene data schema)
        (fun check => check.targets (options.scene data schema)) options.checks.toList
        data.size schema.size := by
  rw [Options.run, sequential]
  simp only [runChecks_eq_runChecksAt]
  rfl

/-- The report in closed form, without a cache. -/
theorem reportAt_eq (checks : List Check) (dataTriples schemaTriples : Nat) :
    reportAt scene targets checks dataTriples schemaTriples =
      { violations := (outcomeAt scene targets checks ∅).1
        stats := {
          dataTriples
          schemaTriples
          declaredProperties := scene.schema.properties.length
          disjointPairs := scene.schema.disjoint.size
          checks := (outcomeAt scene targets checks ∅).2
          cache := TypeCache.countsAfter (lookedUpAt scene targets checks) } } := by
  obtain ⟨after, _agrees, answered⟩ := @answers_runChecksAt scene false targets checks ∅
    TypeCache.empty TypeCache.empty_agrees
  have left : after = TypeCache.empty.lookUp scene.types (lookedUpAt scene targets checks) := by
    rw [← looksUp_runChecksAt checks ∅ TypeCache.empty TypeCache.empty_agrees, answered]
  have ran : (runChecksAt scene false targets checks ∅).run TypeCache.empty =
      (outcomeAt scene targets checks ∅, after) := answered
  rw [reportAt, ran, ← TypeCache.counts_lookUp scene.types, ← left]

end Runs

end OntologyLint
