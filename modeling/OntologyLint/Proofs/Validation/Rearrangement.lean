import OntologyLint.Proofs.Check.Cardinality
import OntologyLint.Proofs.Schema.Rearrangement
import OntologyLint.Proofs.Validation.Arrangement

set_option autoImplicit false

/-! Validations that come to the same triples in different orders. The checks have the same targets,
find the same there and look up the same resources, in some order, so a sequential validation gives
one report for all orders of the triples, the properties and the targets. -/

namespace OntologyLint

structure Scene.Rearranges (one other : Scene) : Prop where
  data : one.data.Rearranges other.data
  schema : one.schema.Rearranges other.schema
  types : one.types.Rearranges other.types
  datatypesDisjoint : one.datatypesDisjoint = other.datatypesDisjoint

section Checks

variable {one other : Scene} (same : one.Rearranges other)

include same

namespace DomainRange

theorem targets_perm : (targets one).Perm (targets other) := by
  refine ((same.schema.properties.filter applies).flatMap_right _).trans
    (List.Perm.flatMap_left _ ?_)
  intro declaration _applied
  exact same.data.withPredicate declaration.property.text

theorem found_eq_of_rearranges (triple : Triple) : found one triple = found other triple := by
  have lacks (declared : SortedSet Resource) (resource : Resource) :
      lacking one declared resource = lacking other declared resource := by
    rw [lacking, lacking, same.types.typesOf]
  rw [found, found, same.schema.declaration?]
  simp only [lacks]

theorem lookedUp_eq_of_rearranges (triple : Triple) :
    lookedUp one triple = lookedUp other triple := by
  rw [lookedUp, lookedUp, same.schema.declaration?]

end DomainRange

namespace Disjointness

theorem areDisjoint_eq_of_rearranges : areDisjoint one = areDisjoint other := by
  have named : isNamedClass one = isNamedClass other := by
    funext type
    rw [isNamedClass, isNamedClass, same.schema.isRestriction]
  funext a b
  rw [areDisjoint, areDisjoint, same.schema.areDisjoint, same.schema.isDatatype,
    same.schema.isDatatype, same.datatypesDisjoint, named]

theorem found_eq_of_rearranges (resource : Resource) :
    found one resource = found other resource := by
  rw [found, found, disjointPairs, disjointPairs, same.types.typesOf,
    areDisjoint_eq_of_rearranges same]

theorem targets_eq_of_rearranges : targets one = targets other := by
  rw [targets, targets, same.schema.disjoint, same.datatypesDisjoint,
    same.data.sameTriples.typedResources]

end Disjointness

namespace DatatypeRange

theorem targets_perm : (targets one).Perm (targets other) := by
  refine ((same.schema.properties.filter _).flatMap_right _).trans (List.Perm.flatMap_left _ ?_)
  intro declaration _ranged
  exact (same.data.withPredicate declaration.property.text).filter _

theorem examine_eq_of_rearranges (triple : Triple) : examine one triple = examine other triple := by
  rw [examine, examine, same.schema.declaration?]

end DatatypeRange

namespace Cardinality

theorem boundsOn_eq_of_rearranges (resource : Resource) :
    boundsOn one (one.types.typesOf resource) resource =
      boundsOn other (other.types.typesOf resource) resource := by
  have used (property : Resource) : (one.data.objectsOf resource property.text).isEmpty =
      (other.data.objectsOf resource property.text).isEmpty :=
    (same.data.objectsOf resource property.text).isEmpty_eq
  ext restriction
  rw [mem_boundsOn, mem_boundsOn, same.types.typesOf, same.schema.functional]
  simp only [(same.schema.restrictionsFor _).mem_iff, used]

theorem count_eq_of_perm (qualifier : Option Qualifier) {values others : List Object}
    (perm : values.Perm others) : count one qualifier values = count other qualifier others := by
  have counts : counted one = counted other := by
    funext qualifier value
    cases qualifier with
    | literals datatype => cases value <;> rfl
    | instances type =>
        cases value with
        | literal literal => rfl
        | resource resource => rw [counted, counted, same.types.typesOf]
  cases qualifier with
  | none => exact perm.length_eq
  | some qualifier => rw [count, count, counts, perm.countP_eq]

theorem found_eq_of_rearranges (resource : Resource) :
    found one resource = found other resource := by
  have breaks : broken one resource = broken other resource := by
    funext restriction
    have values := same.data.objectsOf resource restriction.property.text
    rw [broken, broken, count_eq_of_perm same restriction.qualifier values]
  rw [found, found, boundsOn_eq_of_rearranges same, breaks]

theorem lookedUp_perm (resource : Resource) :
    (lookedUp one resource).Perm (lookedUp other resource) := by
  rw [lookedUp, lookedUp, boundsOn_eq_of_rearranges same]
  refine List.Perm.cons resource (List.Perm.flatMap_left _ ?_)
  intro restriction _bound
  rw [lookedUpFor, lookedUpFor]
  split
  · exact .refl _
  · cases restriction.qualifier with
    | none => exact .refl _
    | some qualifier =>
        exact (same.data.objectsOf resource restriction.property.text).flatMap_right _

theorem targets_eq_of_rearranges : targets one = targets other := by
  have users (resource property : Resource) : resource ∈ one.data.subjectsOf property.text ↔
      resource ∈ other.data.subjectsOf property.text :=
    (same.data.sameTriples.on property.text).mem_subjectsOf
  ext resource
  simp only [targets, SortedSet.mem_ofList, List.mem_append, List.mem_flatMap,
    same.schema.hasRestrictions, same.data.sameTriples.typedResources, same.schema.functional, users]

end Cardinality

namespace Check

theorem targets_perm (check : Check) : (check.targets one).Perm (check.targets other) := by
  cases check with
  | domainRange => exact (DomainRange.targets_perm same).map _
  | disjointness =>
      rw [targets, targets, Disjointness.targets_eq_of_rearranges same]
  | datatype => exact (DatatypeRange.targets_perm same).map _
  | cardinality =>
      rw [targets, targets, Cardinality.targets_eq_of_rearranges same]

theorem found_eq_of_rearranges (check : Check) : check.found one = check.found other := by
  funext focus
  cases focus with
  | triple triple =>
      cases check with
      | domainRange => exact DomainRange.found_eq_of_rearranges same triple
      | disjointness => rfl
      | datatype => exact DatatypeRange.examine_eq_of_rearranges same triple
      | cardinality => rfl
  | resource resource =>
      cases check with
      | domainRange => rfl
      | disjointness => exact Disjointness.found_eq_of_rearranges same resource
      | datatype => rfl
      | cardinality => exact Cardinality.found_eq_of_rearranges same resource

theorem lookedUp_perm (check : Check) (focus : Focus) :
    (check.lookedUp one focus).Perm (check.lookedUp other focus) := by
  cases focus with
  | triple triple =>
      cases check with
      | domainRange =>
          rw [lookedUp, lookedUp, DomainRange.lookedUp_eq_of_rearranges same]
      | disjointness => exact .refl _
      | datatype => exact .refl _
      | cardinality => exact .refl _
  | resource resource =>
      cases check with
      | domainRange => exact .refl _
      | disjointness => exact .refl _
      | datatype => exact .refl _
      | cardinality => exact Cardinality.lookedUp_perm same resource

end Check

/-- Runs that go through the same targets in different orders end with one report. -/
theorem reportAt_eq_of_rearranges {targets others : Check → List Focus}
    (reordered : ∀ check, (targets check).Perm (others check)) (checks : List Check)
    (dataTriples schemaTriples : Nat) :
    reportAt one targets checks dataTriples schemaTriples =
      reportAt other others checks dataTriples schemaTriples := by
  have findings (check : Check) : check.findingsAt one (targets check) =
      check.findingsAt other (others check) := by
    ext violation
    rw [Check.findingsAt, Check.findingsAt, SortedSet.mem_ofList, SortedSet.mem_ofList,
      check.found_eq_of_rearranges same]
    exact ((reordered check).flatMap_right _).mem_iff
  have figures (check : Check) : check.figuresAt one (targets check) =
      check.figuresAt other (others check) := by
    rw [Check.figuresAt, Check.figuresAt, findings, (reordered check).length_eq]
  have outcomes : outcomeAt one targets checks ∅ = outcomeAt other others checks ∅ := by
    rw [outcomeAt, outcomeAt]
    simp only [findings, figures]
  have lookups : (lookedUpAt one targets checks).Perm (lookedUpAt other others checks) := by
    refine List.Perm.flatMap_left _ ?_
    intro check _made
    exact ((reordered check).flatMap_right _).trans
      (List.Perm.flatMap_left _ (fun focus _target => check.lookedUp_perm same focus))
  rw [reportAt_eq, reportAt_eq, outcomes, TypeCache.countsAfter_eq_of_perm lookups,
    same.schema.properties.length_eq, same.schema.disjoint]

end Checks

namespace Arrangement

variable {data schema : Graph}

theorem scene_rearranges (arrangement : Arrangement data schema) (options : Options)
    (determinate : schema.Determinate) :
    (options.scene data schema).Rearranges (arrangement.scene options) where
  data := arrangement.dataListed
  schema :=
    have declared := Schema.ofView_rearranges arrangement.schemaListed
      (View.choosesAs_of_determinate determinate arrangement.schemaListed)
    { declared with properties := declared.properties.trans arrangement.propertiesListed }
  types := arrangement.typesListed
  datatypesDisjoint := rfl

theorem report_eq_run (arrangement : Arrangement data schema) {options : Options}
    (determinate : schema.Determinate) (sequential : options.parallel = false) :
    arrangement.report options = options.run data schema := by
  have same := arrangement.scene_rearranges options determinate
  have reordered (check : Check) : (check.targets (options.scene data schema)).Perm
      (arrangement.order check (check.targets (arrangement.scene options))) :=
    (check.targets_perm same).trans (arrangement.orderListed check _).symm
  have dataSize : data.size = arrangement.dataView.length := arrangement.dataListed.length_eq
  have schemaSize : schema.size = arrangement.schemaView.length :=
    arrangement.schemaListed.length_eq
  rw [Options.run_eq_reportAt sequential, report, reportAt_eq_of_rearranges same reordered,
    dataSize, schemaSize]

end Arrangement

theorem Graph.ofStatements_eq_of_same {some others : List Statement}
    (same : ∀ statement, statement ∈ some ↔ statement ∈ others) :
    ofStatements some = ofStatements others := by
  ext triple
  rw [mem_ofStatements, mem_ofStatements]
  simp only [same]

/-- A sequential validation hangs on which triples there are. Lists with the same elements give the
same report, and so does every order in which it can come to the triples of a graph, to the declared
properties and to the targets of a check. -/
theorem report_depends_on_triples_alone (options : Options) (sequential : options.parallel = false)
    (data dataAgain schema schemaAgain : List Statement)
    (sameData : ∀ statement, statement ∈ data ↔ statement ∈ dataAgain)
    (sameSchema : ∀ statement, statement ∈ schema ↔ statement ∈ schemaAgain)
    (determinate : (Graph.ofStatements schema).Determinate)
    (arrangement : Arrangement (.ofStatements data) (.ofStatements schema))
    (again : Arrangement (.ofStatements dataAgain) (.ofStatements schemaAgain)) :
    arrangement.report options = again.report options ∧
      arrangement.report options =
        options.run (.ofStatements data) (.ofStatements schema) ∧
      options.run (.ofStatements data) (.ofStatements schema) =
        options.run (.ofStatements dataAgain) (.ofStatements schemaAgain) := by
  have dataEqual := Graph.ofStatements_eq_of_same sameData
  have schemaEqual := Graph.ofStatements_eq_of_same sameSchema
  have first := arrangement.report_eq_run determinate sequential
  have second := again.report_eq_run (schemaEqual ▸ determinate) sequential
  refine ⟨?_, first, ?_⟩
  · rw [first, second, dataEqual, schemaEqual]
  · rw [dataEqual, schemaEqual]

/-! A person with two dogs, where the schema allows one. Both dogs are looked up to be counted. -/

namespace Arrangement

def sampleData : List Statement := [
  ⟨.iri "ann", Rdf.type, .resource (.iri "Keeper")⟩,
  ⟨.iri "ann", "keeps", .resource (.iri "rex")⟩,
  ⟨.iri "ann", "keeps", .resource (.iri "pug")⟩,
  ⟨.iri "rex", Rdf.type, .resource (.iri "Dog")⟩,
  ⟨.iri "pug", Rdf.type, .resource (.iri "Dog")⟩]

def sampleSchema : List Statement := [
  ⟨.iri "Keeper", Rdfs.subClassOf, .resource (.blank "one")⟩,
  ⟨.blank "one", Owl.onProperty, .resource (.iri "keeps")⟩,
  ⟨.blank "one", Owl.onClass, .resource (.iri "Dog")⟩,
  ⟨.blank "one", Owl.maxQualifiedCardinality, .plain "1"⟩]

end Arrangement

open Arrangement in
theorem twice_backwards_reports_the_same :
    ({ parallel := false } : Options).parallel = false ∧
      (∀ statement, statement ∈ sampleData ↔ statement ∈ (sampleData ++ sampleData).reverse) ∧
      (∀ statement, statement ∈ sampleSchema ↔ statement ∈ sampleSchema.reverse) ∧
      (Graph.ofStatements sampleSchema).Determinate ∧
      (forwards (.ofStatements sampleData) (.ofStatements sampleSchema)).report
          { parallel := false } =
        (backwards (.ofStatements (sampleData ++ sampleData).reverse)
          (.ofStatements sampleSchema.reverse)).report { parallel := false } := by
  have sameData : ∀ statement, statement ∈ sampleData ↔
      statement ∈ (sampleData ++ sampleData).reverse := by
    intro statement
    rw [List.mem_reverse, List.mem_append, or_self]
  have sameSchema : ∀ statement, statement ∈ sampleSchema ↔ statement ∈ sampleSchema.reverse :=
    fun _ => List.mem_reverse.symm
  have determinate : (Graph.ofStatements sampleSchema).Determinate :=
    Graph.determinate_ofStatements (by decide +kernel)
  exact ⟨rfl, sameData, sameSchema, determinate,
    (report_depends_on_triples_alone { parallel := false } rfl sampleData
      (sampleData ++ sampleData).reverse sampleSchema sampleSchema.reverse sameData sameSchema
      determinate (forwards _ _) (backwards _ _)).1⟩

end OntologyLint
