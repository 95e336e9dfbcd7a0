import OntologyLint.Proofs.Validation.Hierarchy
import OntologyLint.Proofs.Validation.Rearrangement

set_option autoImplicit false

/-! Triples of a schema that say nothing to a validation. Values, counts and targets are read from
the data, declarations from some predicates of the schema, and classes from the hierarchy of both
graphs. A triple of the schema with any other predicate is read by nobody, be it about a resource of
the data and use a property that the schema declares. -/

namespace OntologyLint

/-- The predicates that mean something in a schema. -/
def recognisedPredicates : List String := [
  Rdf.type, Rdf.first, Rdf.rest,
  Rdfs.domain, Rdfs.range, Rdfs.subClassOf,
  Owl.equivalentClass, Owl.disjointWith, Owl.members,
  Owl.onProperty, Owl.onClass, Owl.onDataRange,
  Owl.cardinality, Owl.minCardinality, Owl.maxCardinality,
  Owl.qualifiedCardinality, Owl.minQualifiedCardinality, Owl.maxQualifiedCardinality]

theorem schemaPredicates_recognised :
    ∀ predicate ∈ schemaPredicates, predicate ∈ recognisedPredicates := by
  simp [schemaPredicates, boundPredicates, recognisedPredicates]

theorem hierarchyPredicates_recognised :
    ∀ predicate ∈ hierarchyPredicates, predicate ∈ recognisedPredicates := by
  simp [hierarchyPredicates, recognisedPredicates]

def Report.withSchemaTriples (report : Report) (count : Nat) : Report :=
  { report with stats := { report.stats with schemaTriples := count } }

section Types

variable {scene : Scene} {further : View} (same : further.typesOf = scene.types.typesOf)

include same

theorem View.askTypes_eq : further.askTypes = scene.types.askTypes := by
  funext resource cache
  rw [askTypes, askTypes, same]

theorem DomainRange.examine_withTypes (triple : Triple) :
    examine { scene with types := further } triple = examine scene triple := by
  have missing : missingClasses { scene with types := further } = missingClasses scene := by
    funext declared resource
    rw [missingClasses, missingClasses, View.askTypes_eq same]
  unfold examine
  rw [missing]

theorem Disjointness.examine_withTypes (resource : Resource) :
    examine { scene with types := further } resource = examine scene resource := by
  rw [examine, examine, View.askTypes_eq same]
  rfl

theorem Cardinality.examine_withTypes (resource : Resource) :
    examine { scene with types := further } resource = examine scene resource := by
  have qualified : qualifies { scene with types := further } = qualifies scene := by
    funext qualifier value
    unfold qualifies
    rw [View.askTypes_eq same]
  have bounds : examineBound { scene with types := further } resource =
      examineBound scene resource := by
    funext restriction
    unfold examineBound countValues
    rw [qualified]
  rw [examine, examine, View.askTypes_eq same, bounds]
  rfl

/-- A check comes to know a view of types by its answers alone. -/
theorem Check.examine_withTypes (check : Check) :
    check.examine { scene with types := further } = check.examine scene := by
  funext focus
  cases focus with
  | triple triple =>
      cases check with
      | domainRange => exact DomainRange.examine_withTypes same triple
      | disjointness => rfl
      | datatype => rfl
      | cardinality => rfl
  | resource resource =>
      cases check with
      | domainRange => rfl
      | disjointness => exact Disjointness.examine_withTypes same resource
      | datatype => rfl
      | cardinality => exact Cardinality.examine_withTypes same resource

theorem runChecksAt_withTypes (parallel : Bool) (targets : Check → List Focus)
    (checks : List Check) (violations : ViolationSet) :
    runChecksAt { scene with types := further } parallel targets checks violations =
      runChecksAt scene parallel targets checks violations := by
  have runs (check : Check) : check.runAt { scene with types := further } parallel =
      check.runAt scene parallel := by
    funext targets
    rw [Check.runAt, Check.runAt, Check.evaluate, Check.evaluate, check.examine_withTypes same]
  induction checks generalizing violations with
  | nil => rfl
  | cons check rest ih =>
      rw [runChecksAt, runChecksAt, runs]
      simp only [ih]

end Types

/-! A view with one more triple, wherever it is listed. -/

section Views

variable {triple : Triple} {smaller larger : View} {predicate : String}

theorem View.Gains.perm (gains : View.Gains triple smaller larger) :
    larger.triples.Perm (triple :: smaller.triples) := by
  obtain ⟨before, after, fewer, more⟩ := gains
  rw [fewer, more]
  exact List.perm_middle

theorem View.gains_cons (view : View) : View.Gains triple view ⟨triple :: view.triples⟩ :=
  ⟨[], view.triples, rfl, rfl⟩

theorem View.exists_gains (member : triple ∈ larger.triples) :
    ∃ smaller, View.Gains triple smaller larger := by
  obtain ⟨before, after, listed⟩ := List.append_of_mem member
  exact ⟨⟨before ++ after⟩, before, after, rfl, listed⟩

variable {data schema : Graph} {stray : Statement}

theorem Graph.insert_of_mem (old : stray.triple ∈ schema) : schema.insert stray = schema := by
  ext triple
  rw [mem_insert]
  constructor
  · intro member
    cases member with
    | inl same => rw [same]; exact old
    | inr listed => exact listed
  · exact Or.inr

theorem Graph.view_insert_perm (fresh : stray.triple ∉ schema) :
    (schema.insert stray).view.triples.Perm (stray.triple :: schema.view.triples) := by
  have distinct : (stray.triple :: schema.view.triples).Nodup :=
    List.nodup_cons.2 ⟨fresh, schema.triples.increasing.nodup⟩
  refine (List.perm_ext_iff_of_nodup (schema.insert stray).triples.increasing.nodup distinct).2 ?_
  intro triple
  rw [List.mem_cons]
  exact mem_insert

theorem Graph.beside_insert_perm (fresh : stray.triple ∉ schema) :
    (data.beside (schema.insert stray)).triples.Perm
      (stray.triple :: (data.beside schema).triples) :=
  ((Graph.view_insert_perm fresh).append_left _).trans List.perm_middle

end Views

section Arrangements

variable {data schema other : Graph} {stray : Statement} {options : Options}

namespace Arrangement

/-- Two schemas that mean the same are read alike in orders that list the same of what means
something. -/
theorem exists_report_eq (arrangement : Arrangement data schema) {schemaView typesView : View}
    (schemaListed : other.view.Rearranges schemaView)
    (typesListed : (data.beside other).Rearranges typesView)
    (schemaAgrees : ∀ predicate ∈ recognisedPredicates,
      schemaView.AgreesOn arrangement.schemaView predicate)
    (typesAgrees : ∀ predicate ∈ recognisedPredicates,
      typesView.AgreesOn arrangement.typesView predicate) (options : Options) :
    ∃ again : Arrangement data other,
      again.report options = (arrangement.report options).withSchemaTriples other.size := by
  have declared : Schema.ofView schemaView = Schema.ofView arrangement.schemaView :=
    Schema.ofView_eq (fun predicate read =>
      schemaAgrees predicate (schemaPredicates_recognised predicate read))
  have answers : typesView.typesOf = arrangement.typesView.typesOf :=
    View.typesOf_eq (fun predicate known =>
      typesAgrees predicate (hierarchyPredicates_recognised predicate known))
  let again : Arrangement data other :=
    { arrangement with
      schemaView, typesView, schemaListed, typesListed
      propertiesListed := declared ▸ arrangement.propertiesListed }
  have scenes : again.scene options =
      { arrangement.scene options with types := typesView } := by
    simp only [again, scene, declared]
  have size : again.schemaView.length = other.size := schemaListed.length_eq.symm
  refine ⟨again, ?_⟩
  rw [report, report, scenes, reportAt, reportAt, runChecksAt_withTypes answers, size]
  simp only [Check.targets_withTypes]
  rfl

theorem report_withSchemaTriples (arrangement : Arrangement data schema) (options : Options) :
    (arrangement.report options).withSchemaTriples schema.size = arrangement.report options := by
  have size : arrangement.schemaView.length = schema.size := arrangement.schemaListed.length_eq.symm
  rw [report, ← size]
  rfl

variable (unrecognised : stray.predicate ∉ recognisedPredicates)

include unrecognised

theorem exists_report_insert (arrangement : Arrangement data schema) (options : Options) :
    ∃ again : Arrangement data (schema.insert stray), again.report options =
      (arrangement.report options).withSchemaTriples (schema.insert stray).size := by
  by_cases old : stray.triple ∈ schema
  · rw [Graph.insert_of_mem old]
    exact ⟨arrangement, (arrangement.report_withSchemaTriples options).symm⟩
  · apply arrangement.exists_report_eq
    case schemaListed =>
      exact (Graph.view_insert_perm old).trans (arrangement.schemaListed.cons _)
    case typesListed =>
      exact (Graph.beside_insert_perm old).trans (arrangement.typesListed.cons _)
    case schemaAgrees =>
      intro predicate known
      exact ((View.gains_cons _).agreesBut.agreesOn_of_not_mem unrecognised predicate known).symm
    case typesAgrees =>
      intro predicate known
      exact ((View.gains_cons _).agreesBut.agreesOn_of_not_mem unrecognised predicate known).symm

/-- Wherever the further triple comes, it can be left out. -/
theorem exists_report_of_insert (arrangement : Arrangement data (schema.insert stray))
    (options : Options) :
    ∃ again : Arrangement data schema,
      again.report options = (arrangement.report options).withSchemaTriples schema.size := by
  by_cases old : stray.triple ∈ schema
  · have same := Graph.insert_of_mem old
    revert arrangement
    rw [same]
    intro arrangement
    exact ⟨arrangement, (arrangement.report_withSchemaTriples options).symm⟩
  · have schemaListed := (Graph.view_insert_perm old).symm.trans arrangement.schemaListed
    have typesListed := (Graph.beside_insert_perm old).symm.trans arrangement.typesListed
    obtain ⟨schemaView, schemaGains⟩ :=
      View.exists_gains (schemaListed.mem_iff.1 List.mem_cons_self)
    obtain ⟨typesView, typesGains⟩ :=
      View.exists_gains (typesListed.mem_iff.1 List.mem_cons_self)
    exact arrangement.exists_report_eq
      (List.Perm.cons_inv (schemaListed.trans schemaGains.perm))
      (List.Perm.cons_inv (typesListed.trans typesGains.perm))
      (schemaGains.agreesBut.agreesOn_of_not_mem unrecognised)
      (typesGains.agreesBut.agreesOn_of_not_mem unrecognised) options

end Arrangement

end Arrangements

section Inertness

variable {data schema : Graph} {stray : Statement}
  (unrecognised : stray.predicate ∉ recognisedPredicates)

include unrecognised

theorem Options.typesOf_insert_unrecognised (options : Options) :
    (data.beside (schema.insert stray)).typesOf = (options.scene data schema).types.typesOf := by
  symm
  apply View.typesOf_eq
  intro predicate known
  exact (Graph.agreesOn_insert_of_not_mem schema unrecognised predicate
    (hierarchyPredicates_recognised predicate known)).beside data

theorem Options.scene_insert_unrecognised (options : Options) :
    options.scene data (schema.insert stray) =
      { options.scene data schema with types := data.beside (schema.insert stray) } :=
  Scene.ofGraphs_insert_schema
    (fun read => unrecognised (schemaPredicates_recognised _ read)) options.datatypesDisjoint

theorem Options.run_insert_unrecognised (options : Options) :
    options.run data (schema.insert stray) =
      (options.run data schema).withSchemaTriples (schema.insert stray).size := by
  have scenes : options.scene data (schema.insert stray) =
      { options.scene data schema with types := data.beside (schema.insert stray) } :=
    options.scene_insert_unrecognised unrecognised
  have same : (data.beside (schema.insert stray)).typesOf =
      (options.scene data schema).types.typesOf :=
    options.typesOf_insert_unrecognised unrecognised
  unfold Options.scene at scenes same
  rw [Options.run, Options.run]
  simp only [scenes, runChecks_eq_runChecksAt, runChecksAt_withTypes same, Check.targets_withTypes]
  rfl

end Inertness

/-- A triple of the schema with a predicate that means nothing there changes the number of its
triples in the report and nothing else. It makes no difference to what a check looks at, nor to what
it finds and asks for there from any cache; and with the triples and targets in any order, the
reports that can come about are the same. -/
theorem unrecognised_triples_are_inert (data schema : Graph) (options : Options)
    (stray : Statement) (unrecognised : stray.predicate ∉ recognisedPredicates) :
    options.run data (schema.insert stray) =
        (options.run data schema).withSchemaTriples (schema.insert stray).size ∧
    (∀ check : Check,
      check.targets (options.scene data (schema.insert stray)) =
          check.targets (options.scene data schema) ∧
        check.examine (options.scene data (schema.insert stray)) =
          check.examine (options.scene data schema)) ∧
    Set.range (fun arrangement : Arrangement data (schema.insert stray) =>
        arrangement.report options) =
      Set.range (fun arrangement : Arrangement data schema =>
        (arrangement.report options).withSchemaTriples (schema.insert stray).size) := by
  refine ⟨options.run_insert_unrecognised unrecognised, ?_, ?_⟩
  · intro check
    have same : (data.beside (schema.insert stray)).typesOf =
        (options.scene data schema).types.typesOf :=
      options.typesOf_insert_unrecognised unrecognised
    rw [options.scene_insert_unrecognised unrecognised]
    exact ⟨check.targets_withTypes, check.examine_withTypes same⟩
  · ext report
    constructor
    · intro reported
      obtain ⟨arrangement, same⟩ := reported
      obtain ⟨again, found⟩ := arrangement.exists_report_of_insert unrecognised options
      refine ⟨again, ?_⟩
      change (again.report options).withSchemaTriples _ = report
      rw [found, ← same]
      exact arrangement.report_withSchemaTriples options
    · intro reported
      obtain ⟨arrangement, same⟩ := reported
      obtain ⟨again, found⟩ := arrangement.exists_report_insert unrecognised options
      exact ⟨again, found.trans same⟩

/-! A functional property of the schema is used in the schema once more, about a resource of the
data that has a value already. -/

namespace Inertness

def sampleData : List Statement := [⟨.iri "ann", "spouse", .resource (.iri "bob")⟩]

def sampleSchema : List Statement := [
  ⟨.iri "spouse", Rdf.type, .resource (.iri Owl.functionalProperty)⟩]

def sampleStray : Statement := ⟨.iri "ann", "spouse", .resource (.iri "carl")⟩

end Inertness

open Inertness in
theorem spouse_in_schema_is_inert :
    sampleStray.predicate ∉ recognisedPredicates ∧
      ({} : Options).run (.ofStatements sampleData)
          ((Graph.ofStatements sampleSchema).insert sampleStray) =
        (({} : Options).run (.ofStatements sampleData)
          (.ofStatements sampleSchema)).withSchemaTriples 2 := by
  have unrecognised : sampleStray.predicate ∉ recognisedPredicates := by decide +kernel
  have size : ((Graph.ofStatements sampleSchema).insert sampleStray).size = 2 := by
    decide +kernel
  have inert := (unrecognised_triples_are_inert (.ofStatements sampleData)
    (.ofStatements sampleSchema) {} sampleStray unrecognised).1
  rw [size] at inert
  exact ⟨unrecognised, inert⟩

end OntologyLint
