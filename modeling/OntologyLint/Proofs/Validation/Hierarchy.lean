import OntologyLint.Proofs.Check.Disjointness
import OntologyLint.Proofs.Schema.Reading
import OntologyLint.Proofs.Validation.Rearrangement

set_option autoImplicit false

/-! A larger class hierarchy. What a schema declares does not change with it, so a validation looks
at the same triples and resources; but every resource keeps its classes and may gain some. More
classes meet more domains and ranges, and they are also more that can be disjoint and more that carry
restrictions. -/

namespace OntologyLint

section Types

variable {scene : Scene} {larger : View} {violation : Violation} {triple : Triple}
  {resource : Resource}

/-- What a check looks at does not hang on the view that types are looked up in. -/
theorem Check.targets_withTypes (check : Check) :
    check.targets { scene with types := larger } = check.targets scene := by
  cases check <;> rfl

variable (scene)
  (keeps : ∀ resource, ∀ type ∈ scene.types.typesOf resource, type ∈ larger.typesOf resource)

include keeps

theorem DomainRange.found_antitone
    (member : violation ∈ found { scene with types := larger } triple) :
    violation ∈ found scene triple := by
  have fewer {declared : SortedSet Resource} {resource type : Resource}
      (lacked : type ∈ lacking { scene with types := larger } declared resource) :
      type ∈ lacking scene declared resource := by
    obtain ⟨expected, missing⟩ := mem_lacking.1 lacked
    exact mem_lacking.2 ⟨expected, fun held => missing (keeps resource type held)⟩
  obtain ⟨declaration, declared, domain | range⟩ := mem_found.1 member
  · obtain ⟨type, lacked, same⟩ := domain
    exact mem_found.2 ⟨declaration, declared, Or.inl ⟨type, fewer lacked, same⟩⟩
  · obtain ⟨object, leads, type, lacked, same⟩ := range
    exact mem_found.2 ⟨declaration, declared, Or.inr ⟨object, leads, type, fewer lacked, same⟩⟩

theorem Disjointness.found_monotone (member : violation ∈ found scene resource) :
    violation ∈ found { scene with types := larger } resource := by
  obtain ⟨pair, paired, same⟩ := mem_found.1 member
  obtain ⟨first, second, apart⟩ := mem_disjointPairs.1 paired
  have both : pair ∈ disjointPairs { scene with types := larger }
      (larger.typesOf resource).toList :=
    mem_disjointPairs.2 ⟨keeps resource _ first, keeps resource _ second, apart⟩
  exact mem_found.2 ⟨pair, both, same⟩

/-- A bound without a qualifier counts all values, whatever their classes. -/
theorem Cardinality.found_monotone {property : Resource} {bound : Bound} {actual : Nat}
    {focus : Resource}
    (member : .cardinalityMismatch resource property bound none actual ∈ found scene focus) :
    .cardinalityMismatch resource property bound none actual ∈
      found { scene with types := larger } focus := by
  obtain ⟨restriction, bounds, breaks⟩ := mem_found.1 member
  obtain ⟨number, counted, named, refused, same⟩ := mem_broken.1 breaks
  have unqualified : restriction.qualifier = none :=
    (Violation.cardinalityMismatch.inj same).2.2.2.1.symm
  have still : restriction ∈ boundsOn { scene with types := larger }
      (larger.typesOf focus) focus := by
    rcases mem_boundsOn.1 bounds with ⟨type, held, carried⟩ | functional
    · exact mem_boundsOn.2 (Or.inl ⟨type, keeps focus type held, carried⟩)
    · exact mem_boundsOn.2 (Or.inr functional)
  refine mem_found.2 ⟨restriction, still, mem_broken.2 ⟨number, ?_, named, refused, same⟩⟩
  rw [unqualified] at counted ⊢
  exact counted

end Types

/-- Up to order, the larger scene differs from the smaller one in the view of types alone, and in that
view every resource keeps its classes. -/
structure Scene.EnlargesTypes (larger smaller : Scene) : Prop where
  rest : smaller.Rearranges { larger with types := smaller.types }
  keeps : ∀ resource, ∀ type ∈ smaller.types.typesOf resource, type ∈ larger.types.typesOf resource

namespace Check

variable {check : Check} {smaller larger : Scene} {violation : Violation}
  (enlarges : larger.EnlargesTypes smaller)

include enlarges

theorem mem_targets_iff {focus : Focus} :
    focus ∈ check.targets smaller ↔ focus ∈ check.targets larger := by
  rw [(check.targets_perm enlarges.rest).mem_iff, check.targets_withTypes]

/-- A violation that is found at a focus with the larger hierarchy too stays found. -/
theorem findings_monotone
    (more : ∀ focus, violation ∈ check.found { larger with types := smaller.types } focus →
      violation ∈ check.found larger focus)
    (found : violation ∈ check.findings smaller) : violation ∈ check.findings larger := by
  obtain ⟨focus, target, member⟩ := mem_findings.1 found
  rw [check.found_eq_of_rearranges enlarges.rest] at member
  exact mem_findings.2 ⟨focus, (mem_targets_iff enlarges).1 target, more focus member⟩

theorem findings_antitone
    (fewer : ∀ focus, violation ∈ check.found larger focus →
      violation ∈ check.found { larger with types := smaller.types } focus)
    (found : violation ∈ check.findings larger) : violation ∈ check.findings smaller := by
  obtain ⟨focus, target, member⟩ := mem_findings.1 found
  have still := fewer focus member
  rw [← check.found_eq_of_rearranges enlarges.rest] at still
  exact mem_findings.2 ⟨focus, (mem_targets_iff enlarges).2 target, still⟩

end Check

section Findings

variable {smaller larger : Scene} {violation : Violation} (enlarges : larger.EnlargesTypes smaller)

include enlarges

theorem DomainRange.findings_antitone (found : violation ∈ Check.domainRange.findings larger) :
    violation ∈ Check.domainRange.findings smaller := by
  refine Check.findings_antitone enlarges ?_ found
  intro focus member
  cases focus with
  | triple triple =>
      exact found_antitone { larger with types := smaller.types } enlarges.keeps member
  | resource resource => cases member

theorem Disjointness.findings_monotone (found : violation ∈ Check.disjointness.findings smaller) :
    violation ∈ Check.disjointness.findings larger := by
  refine Check.findings_monotone enlarges ?_ found
  intro focus member
  cases focus with
  | triple triple => cases member
  | resource resource =>
      exact found_monotone { larger with types := smaller.types } enlarges.keeps member

theorem Cardinality.findings_monotone {resource property : Resource} {bound : Bound} {actual : Nat}
    (found : .cardinalityMismatch resource property bound none actual ∈
      Check.cardinality.findings smaller) :
    .cardinalityMismatch resource property bound none actual ∈
      Check.cardinality.findings larger := by
  refine Check.findings_monotone enlarges ?_ found
  intro focus member
  cases focus with
  | triple triple => cases member
  | resource other =>
      exact found_monotone { larger with types := smaller.types } enlarges.keeps member

/-- The check of datatypes asks for no classes at all. -/
theorem DatatypeRange.mem_findings_iff :
    violation ∈ Check.datatype.findings larger ↔ violation ∈ Check.datatype.findings smaller := by
  constructor
  · refine Check.findings_antitone enlarges (fun focus member => ?_)
    cases focus with
    | triple triple => exact member
    | resource resource => exact member
  · refine Check.findings_monotone enlarges (fun focus member => ?_)
    cases focus with
    | triple triple => exact member
    | resource resource => exact member

end Findings

section Edges

variable {data schema : Graph} {edge : Statement}

def subclassPredicates : List String := [Rdfs.subClassOf, Owl.equivalentClass]

theorem not_schema_of_subclass :
    ∀ predicate ∈ subclassPredicates, predicate ∉ schemaPredicates := by decide +kernel

theorem schema_of_choosing :
    ∀ predicate ∈ Graph.choosingPredicates, predicate ∈ schemaPredicates := by decide +kernel

theorem Graph.typesOf_insert_schema (edge : Statement) (resource : Resource) :
    ∀ type ∈ (data.beside schema).typesOf resource,
      type ∈ (data.beside (schema.insert edge)).typesOf resource := by
  intro type member
  rw [Graph.mem_typesOf_beside] at member ⊢
  refine InstanceOf.mono ?_ member
  rintro predicate _known subject object (inData | inSchema)
  · exact Or.inl inData
  · exact Or.inr (Graph.mem_insert.2 (Or.inr inSchema))

/-- A statement that no schema is read from changes a scene in the view of types alone. -/
theorem Scene.ofGraphs_insert_schema {statement : Statement}
    (unread : statement.predicate ∉ schemaPredicates) (datatypesDisjoint : Bool) :
    Scene.ofGraphs data (schema.insert statement) datatypesDisjoint =
      { Scene.ofGraphs data schema datatypesDisjoint with
        types := data.beside (schema.insert statement) } := by
  have declared : Schema.ofView schema.view = Schema.ofView (schema.insert statement).view := by
    apply Schema.ofView_eq
    intro predicate read
    exact (Graph.agreesOn_insert_of_not_mem schema unread predicate read).view
  simp only [Scene.ofGraphs, declared]

/-- Listings of a schema and of the same schema with one more statement that is not read declare the
same, as long as they make the same choices. -/
theorem Schema.ofView_rearranges_insert {statement : Statement} {one other : View}
    (unread : statement.predicate ∉ schemaPredicates) (listed : schema.view.Rearranges one)
    (relisted : (schema.insert statement).view.Rearranges other) (chooses : one.ChoosesAs other) :
    (ofView one).Rearranges (ofView other) := by
  have agrees (view : View) : ∀ predicate ∈ schemaPredicates,
      (view.without statement.triple).AgreesOn view predicate :=
    (view.without_agreesBut statement.triple).agreesOn_of_not_mem unread
  have chosen (view : View) : (view.without statement.triple).ChoosesAs view :=
    View.choosesAs_of_agreesOn (fun predicate known =>
      agrees view predicate (schema_of_choosing predicate known))
  have fewer := listed.without statement.triple
  have more := relisted.without statement.triple
  rw [← Graph.agreesBut_insert schema statement] at more
  have rest : (one.without statement.triple).Rearranges (other.without statement.triple) :=
    List.Perm.trans (List.Perm.symm fewer) more
  rw [← ofView_eq (agrees one), ← ofView_eq (agrees other)]
  exact ofView_rearranges rest (((chosen one).trans chooses).trans (chosen other).symm)

namespace Arrangement

variable (before : Arrangement data schema) (after : Arrangement data (schema.insert edge))
  (climbs : edge.predicate ∈ subclassPredicates)

theorem typesOf_insert (resource : Resource) :
    ∀ type ∈ before.typesView.typesOf resource, type ∈ after.typesView.typesOf resource := by
  intro type member
  rw [← before.typesListed.typesOf] at member
  rw [← after.typesListed.typesOf]
  exact Graph.typesOf_insert_schema edge resource type member

include climbs

theorem enlargesTypes (options : Options)
    (alike : before.schemaView.AgreesBut edge.triple after.schemaView ∨ schema.Determinate) :
    (after.scene options).EnlargesTypes (before.scene options) := by
  have unread : edge.predicate ∉ schemaPredicates := not_schema_of_subclass _ climbs
  have chooses : before.schemaView.ChoosesAs after.schemaView :=
    View.choosesAs_insert before.schemaListed after.schemaListed
      (fun known => unread (schema_of_choosing _ known)) alike
  have declared : (Schema.ofView before.schemaView).Rearranges (Schema.ofView after.schemaView) :=
    Schema.ofView_rearranges_insert unread before.schemaListed after.schemaListed chooses
  refine ⟨⟨before.dataListed.symm.trans after.dataListed, ?_, .refl _, rfl⟩,
    before.typesOf_insert after⟩
  exact { declared with
    properties :=
      before.propertiesListed.symm.trans (declared.properties.trans after.propertiesListed)
    distinct :=
      (before.propertiesListed.map PropertyDeclaration.property).nodup_iff.1 declared.distinct }

end Arrangement

end Edges

/-- What a larger hierarchy may do to the violations of a validation. It can only settle domain and
range mismatches and only add disjoint classes and broken bounds without a qualifier, and it leaves
datatype mismatches as they are. -/
structure ViolationSet.ShiftsTo (before after : ViolationSet) : Prop where
  domains : ∀ triple expected,
    .domainMismatch triple expected ∈ after → .domainMismatch triple expected ∈ before
  ranges : ∀ triple expected,
    .rangeMismatch triple expected ∈ after → .rangeMismatch triple expected ∈ before
  disjoint : ∀ resource pair,
    .disjointMembership resource pair ∈ before → .disjointMembership resource pair ∈ after
  unqualified : ∀ resource property bound actual,
    .cardinalityMismatch resource property bound none actual ∈ before →
      .cardinalityMismatch resource property bound none actual ∈ after
  datatypes : ∀ triple expected,
    .datatypeMismatch triple expected ∈ after ↔ .datatypeMismatch triple expected ∈ before

theorem Arrangement.shiftsTo {data schema : Graph} {edge : Statement} (options : Options)
    (before : Arrangement data schema) (after : Arrangement data (schema.insert edge))
    (enlarges : (after.scene options).EnlargesTypes (before.scene options)) :
    (before.report options).violations.ShiftsTo (after.report options).violations where
  domains := by
    intro triple expected
    rw [mem_violations, mem_violations]
    exact And.imp_right (DomainRange.findings_antitone enlarges)
  ranges := by
    intro triple expected
    rw [mem_violations, mem_violations]
    exact And.imp_right (DomainRange.findings_antitone enlarges)
  disjoint := by
    intro resource pair
    rw [mem_violations, mem_violations]
    exact And.imp_right (Disjointness.findings_monotone enlarges)
  unqualified := by
    intro resource property bound actual
    rw [mem_violations, mem_violations]
    exact And.imp_right (Cardinality.findings_monotone enlarges)
  datatypes := by
    intro triple expected
    rw [mem_violations, mem_violations]
    exact and_congr_right fun _ => DatatypeRange.mem_findings_iff enlarges

/-- A subclass edge or an equivalence that is added to the schema takes no class away and shifts the
violations. So it is for any two orders in which a validation may come to the schema without the edge
and with it, provided that they are the same but for the edge, or that the schema leaves no choice of
members, successors or qualifiers. -/
theorem larger_hierarchy_is_monotone (data schema : Graph) (options : Options)
    (edge : Statement) (lower upper : Resource)
    (climbs : edge = ⟨lower, Rdfs.subClassOf, .resource upper⟩ ∨
      edge = ⟨lower, Owl.equivalentClass, .resource upper⟩) :
    (∀ resource, ∀ type ∈ (data.beside schema).typesOf resource,
      type ∈ (data.beside (schema.insert edge)).typesOf resource) ∧
    (options.validate data schema).ShiftsTo (options.validate data (schema.insert edge)) ∧
    ∀ (before : Arrangement data schema) (after : Arrangement data (schema.insert edge)),
      (∀ resource, ∀ type ∈ before.typesView.typesOf resource,
        type ∈ after.typesView.typesOf resource) ∧
      (before.schemaView.AgreesBut edge.triple after.schemaView ∨ schema.Determinate →
        (before.report options).violations.ShiftsTo (after.report options).violations) := by
  have below : edge.predicate ∈ subclassPredicates := by
    rcases climbs with rfl | rfl
    · exact List.mem_cons_self
    · exact List.mem_cons_of_mem _ List.mem_cons_self
  refine ⟨Graph.typesOf_insert_schema edge, ?_, ?_⟩
  · rw [← Arrangement.violations_forwards, ← Arrangement.violations_forwards]
    exact Arrangement.shiftsTo options _ _ (Arrangement.enlargesTypes _ _ below options
      (Or.inl (Graph.agreesBut_insert schema edge)))
  · intro before after
    exact ⟨before.typesOf_insert after, fun alike =>
      before.shiftsTo options after (before.enlargesTypes after below options alike)⟩

/-! A puppy that is also a cat. The schema comes to know that dogs and puppies are the same, which
closes a circle in the hierarchy. -/

namespace LargerHierarchy

def sampleData : List Statement := [
  ⟨.iri "rex", Rdf.type, .resource (.iri "Puppy")⟩,
  ⟨.iri "rex", Rdf.type, .resource (.iri "Cat")⟩]

def sampleSchema : List Statement := [
  ⟨.iri "Puppy", Rdfs.subClassOf, .resource (.iri "Dog")⟩,
  ⟨.iri "Dog", Owl.disjointWith, .resource (.iri "Cat")⟩]

def sampleEdge : Statement := ⟨.iri "Dog", Owl.equivalentClass, .resource (.iri "Puppy")⟩

theorem cat_before_dog : compare (Resource.iri "Cat") (.iri "Dog") = .lt := by decide +kernel

def samplePair : DisjointPair := ⟨.iri "Cat", .iri "Dog", cat_before_dog⟩

theorem sample_reported : .disjointMembership (.iri "rex") samplePair ∈
    ({} : Options).validate (.ofStatements sampleData) (.ofStatements sampleSchema) := by
  have enabled : Check.disjointness ∈ ({} : Options).checks := Options.mem_checks_default _
  refine Options.mem_validate.2 ⟨.disjointness, enabled,
    (Disjointness.disjointMembership_mem_findings (Scene.shows_ofGraphs _)).2
      ⟨?_, ?_, ?_, Or.inl ?_⟩⟩
  · exact ⟨.resource (.iri "Cat"), Graph.mem_ofStatements_iff.2 (by decide)⟩
  · exact ⟨.iri "Cat", Graph.either_ofStatements.2 (by decide), .refl⟩
  · exact ⟨.iri "Puppy", Graph.either_ofStatements.2 (by decide),
      .single (Or.inl (Graph.either_ofStatements.2 (by decide)))⟩
  · exact Or.inr (Or.inl (Graph.mem_ofStatements_iff.2 (by decide)))

end LargerHierarchy

open LargerHierarchy in
theorem circle_keeps_violation :
    (sampleEdge = ⟨.iri "Dog", Rdfs.subClassOf, .resource (.iri "Puppy")⟩ ∨
      sampleEdge = ⟨.iri "Dog", Owl.equivalentClass, .resource (.iri "Puppy")⟩) ∧
    .disjointMembership (.iri "rex") samplePair ∈
      ({} : Options).validate (.ofStatements sampleData) (.ofStatements sampleSchema) ∧
    .disjointMembership (.iri "rex") samplePair ∈ ({} : Options).validate (.ofStatements sampleData)
      ((Graph.ofStatements sampleSchema).insert sampleEdge) ∧
    (Graph.ofStatements sampleSchema).Determinate ∧
    .disjointMembership (.iri "rex") samplePair ∈
      ((Arrangement.backwards (.ofStatements sampleData)
        ((Graph.ofStatements sampleSchema).insert sampleEdge)).report {}).violations := by
  have climbs : sampleEdge = ⟨.iri "Dog", Rdfs.subClassOf, .resource (.iri "Puppy")⟩ ∨
      sampleEdge = ⟨.iri "Dog", Owl.equivalentClass, .resource (.iri "Puppy")⟩ := Or.inr rfl
  have determinate : (Graph.ofStatements sampleSchema).Determinate :=
    Graph.determinate_ofStatements (by decide +kernel)
  obtain ⟨_keeps, shifts, shiftsInAnyOrder⟩ := larger_hierarchy_is_monotone
    (.ofStatements sampleData) (.ofStatements sampleSchema) {} sampleEdge (.iri "Dog")
    (.iri "Puppy") climbs
  refine ⟨climbs, sample_reported, shifts.disjoint _ _ sample_reported, determinate,
    ((shiftsInAnyOrder (Arrangement.forwards _ _) _).2 (Or.inr determinate)).disjoint _ _ ?_⟩
  rw [Arrangement.violations_forwards]
  exact sample_reported

end OntologyLint
