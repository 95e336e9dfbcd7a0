import OntologyLint.Proofs.Graph.Rearrangement
import OntologyLint.Proofs.Schema.Declarations
import OntologyLint.Proofs.Schema.Disjointness
import OntologyLint.Proofs.Schema.Restrictions
import OntologyLint.Proofs.Validation.Lookups

set_option autoImplicit false

/-! The orders in which a validation can come to two graphs. A scene shows two graphs if it lists their
triples in orders of its own and its schema is gathered from a listing of one of them. Whatever the
orders are, the scene answers by the graphs alone, except for what comes first among several members,
successors or qualifiers: that is told by the listing. -/

namespace OntologyLint

/-- The scene lists the triples of a data graph and of both graphs side by side, and its schema, up to
the order of its properties, is gathered from the listing of a schema graph. -/
structure Scene.Shows (scene : Scene) (data schema : Graph) (listing : View) : Prop where
  dataListed : data.view.Rearranges scene.data
  schemaListed : schema.view.Rearranges listing
  typesListed : (data.beside schema).Rearranges scene.types
  propertiesListed : (Schema.ofView listing).properties.Perm scene.schema.properties
  gathered : scene.schema =
    { Schema.ofView listing with properties := scene.schema.properties }

variable {data schema : Graph}

theorem Scene.shows_ofGraphs (datatypesDisjoint : Bool) :
    (Scene.ofGraphs data schema datatypesDisjoint).Shows data schema schema.view :=
  ⟨.refl _, .refl _, .refl _, .refl _, rfl⟩

theorem Options.shows_scene (options : Options) :
    (options.scene data schema).Shows data schema schema.view :=
  Scene.shows_ofGraphs options.datatypesDisjoint

namespace Scene.Shows

variable {scene : Scene} {listing : View} {resource property type node : Resource}
  {predicate : String} {triple : Triple}

section Data

variable (shows : scene.Shows data schema listing)

include shows

theorem mem_data : triple ∈ scene.data.triples ↔ triple ∈ data :=
  (shows.dataListed.sameTriples triple).symm

theorem mem_withPredicate :
    triple ∈ scene.data.withPredicate predicate ↔ triple ∈ data ∧ triple.predicate = .iri predicate :=
  View.mem_withPredicate.trans (and_congr_left fun _ => shows.mem_data)

theorem nodup_objectsOf : (scene.data.objectsOf resource predicate).Nodup :=
  (shows.dataListed.objectsOf resource predicate).nodup_iff.1 View.increasing_objectsOf.nodup

theorem mem_subjectsOf : resource ∈ scene.data.subjectsOf predicate ↔ data.Uses resource predicate :=
  View.mem_subjectsOf.trans (exists_congr fun _ => shows.mem_data)

theorem objectsOf_isEmpty :
    (scene.data.objectsOf resource predicate).isEmpty = false ↔ data.Uses resource predicate := by
  rw [← (shows.dataListed.objectsOf resource predicate).isEmpty_eq]
  exact View.objectsOf_isEmpty

theorem mem_typedResources :
    resource ∈ scene.data.typedResources ↔ data.Uses resource Rdf.type :=
  SortedSet.mem_ofList.trans shows.mem_subjectsOf

theorem mem_typesOf :
    type ∈ scene.types.typesOf resource ↔ InstanceOf (data.Either schema) resource type := by
  rw [← shows.typesListed.typesOf, Graph.mem_typesOf_beside]

end Data

section Schema

variable (shows : scene.Shows data schema listing)

include shows

theorem lists : listing.SameTriples schema.view := shows.schemaListed.sameTriples.symm

theorem mem_properties {declaration : PropertyDeclaration} :
    declaration ∈ scene.schema.properties ↔
      ∃ property, schema.Declares property ∧ schema.view.declarationOf property = declaration := by
  rw [← shows.propertiesListed.mem_iff, shows.lists.properties]
  exact Schema.mem_properties

theorem declaration?_eq_some {declaration : PropertyDeclaration} :
    scene.schema.declaration? property = some declaration ↔
      schema.Declares property ∧ schema.view.declarationOf property = declaration := by
  have distinct := (shows.propertiesListed.map PropertyDeclaration.property).nodup_iff.1
    (Schema.nodup_properties listing)
  rw [Schema.declaration?_eq_some_iff distinct, ← shows.propertiesListed.mem_iff,
    shows.lists.properties, ← Schema.declaration?_eq_some_iff (Schema.nodup_properties schema.view)]
  exact Schema.declaration?_eq_some

theorem mem_functional :
    property ∈ scene.schema.functional ↔ schema.IsTyped property Owl.functionalProperty := by
  rw [shows.gathered]
  exact Schema.mem_functional shows.lists

theorem isDatatype_iff :
    scene.schema.isDatatype resource = true ↔ schema.NamesDatatype resource := by
  rw [shows.gathered]
  exact Schema.isDatatype_iff shows.lists

theorem isRestriction_iff :
    scene.schema.isRestriction node = true ↔ schema.IsRestriction node := by
  rw [shows.gathered]
  exact Schema.isRestriction_iff shows.lists

theorem mem_restrictionsFor {restriction : Restriction} :
    restriction ∈ scene.schema.restrictionsFor node ↔ listing.Carries node restriction := by
  rw [shows.gathered]
  exact Schema.mem_restrictionsFor

theorem hasRestrictions_iff :
    scene.schema.hasRestrictions = true ↔ ∃ node restriction, listing.Carries node restriction := by
  rw [shows.gathered]
  exact Schema.hasRestrictions_iff

theorem mem_disjoint {pair : DisjointPair} :
    pair ∈ scene.schema.disjoint ↔ listing.DeclaresDisjoint pair.first pair.second := by
  rw [shows.gathered]
  exact View.mem_declaredDisjoint

theorem areDisjoint_iff {pair : DisjointPair} :
    scene.schema.areDisjoint pair.first pair.second = true ↔
      listing.DeclaresDisjoint pair.first pair.second := by
  rw [shows.gathered]
  exact Schema.areDisjoint_ofView pair

end Schema

end Scene.Shows

/-- An order for all that a validation goes through without an order of its own: the triples, as the
checks, the schema and the search for types come to them, the declared properties, and the targets
of a check. -/
structure Arrangement (data schema : Graph) where
  dataView : View
  schemaView : View
  typesView : View
  properties : List PropertyDeclaration
  order : Check → List Focus → List Focus
  dataListed : data.view.Rearranges dataView
  schemaListed : schema.view.Rearranges schemaView
  typesListed : (data.beside schema).Rearranges typesView
  propertiesListed : (Schema.ofView schemaView).properties.Perm properties
  orderListed : ∀ check targets, (order check targets).Perm targets

namespace Arrangement

def scene (arrangement : Arrangement data schema) (options : Options) : Scene :=
  { data := arrangement.dataView
    schema :=
      { Schema.ofView arrangement.schemaView with properties := arrangement.properties }
    types := arrangement.typesView
    datatypesDisjoint := options.datatypesDisjoint }

def report (arrangement : Arrangement data schema) (options : Options) : Report :=
  reportAt (arrangement.scene options)
    (fun check => arrangement.order check (check.targets (arrangement.scene options)))
    options.checks.toList arrangement.dataView.length arrangement.schemaView.length

def forwards (data schema : Graph) : Arrangement data schema where
  dataView := data.view
  schemaView := schema.view
  typesView := data.beside schema
  properties := (Schema.ofView schema.view).properties
  order := fun _ targets => targets
  dataListed := .refl _
  schemaListed := .refl _
  typesListed := .refl _
  propertiesListed := .refl _
  orderListed := fun _ _ => .refl _

def backwards (data schema : Graph) : Arrangement data schema where
  dataView := ⟨data.triples.toList.reverse⟩
  schemaView := ⟨schema.triples.toList.reverse⟩
  typesView := ⟨(data.beside schema).triples.reverse⟩
  properties := (Schema.ofView ⟨schema.triples.toList.reverse⟩).properties.reverse
  order := fun _ targets => targets.reverse
  dataListed := (List.reverse_perm _).symm
  schemaListed := (List.reverse_perm _).symm
  typesListed := (List.reverse_perm _).symm
  propertiesListed := (List.reverse_perm _).symm
  orderListed := fun _ targets => List.reverse_perm targets

variable (arrangement : Arrangement data schema) {options : Options} {violation : Violation}

theorem shows (options : Options) :
    (arrangement.scene options).Shows data schema arrangement.schemaView :=
  ⟨arrangement.dataListed, arrangement.schemaListed, arrangement.typesListed,
    arrangement.propertiesListed, rfl⟩

/-- In any order, a validation holds exactly what its checks find at their targets. -/
theorem mem_violations :
    violation ∈ (arrangement.report options).violations ↔
      violation.kind.check ∈ options.checks ∧
        violation ∈ violation.kind.check.findings (arrangement.scene options) := by
  have ordered (check : Check) :
      violation ∈ check.findingsAt (arrangement.scene options)
          (arrangement.order check (check.targets (arrangement.scene options))) ↔
        violation ∈ check.findings (arrangement.scene options) := by
    rw [Check.findingsAt, Check.findings, SortedSet.mem_ofList, SortedSet.mem_ofList]
    exact ((arrangement.orderListed check _).flatMap_right _).mem_iff
  rw [report, reportAt_eq, outcomeAt, mem_foldl_merge]
  simp only [ordered, SortedSet.not_mem_empty, false_or, SortedSet.mem_toList]
  constructor
  · rintro ⟨check, made, found⟩
    cases Check.check_of_mem_findings found
    exact ⟨made, found⟩
  · rintro ⟨made, found⟩
    exact ⟨_, made, found⟩

theorem mem_violations_of_enabled {check : Check} (enabled : check ∈ options.checks)
    (kind : violation.kind.check = check) :
    violation ∈ (arrangement.report options).violations ↔
      violation ∈ check.findings (arrangement.scene options) := by
  cases kind
  rw [mem_violations, and_iff_right enabled]

theorem violations_forwards (data schema : Graph) (options : Options) :
    ((forwards data schema).report options).violations = options.validate data schema := by
  ext violation
  rw [mem_violations, Options.mem_validate_iff_kind]
  rfl

end Arrangement

end OntologyLint
