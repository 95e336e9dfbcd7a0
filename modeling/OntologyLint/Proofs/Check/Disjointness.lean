import OntologyLint.Proofs.Validation.Arrangement

set_option autoImplicit false

/-! Disjointness is checked exactly: a validation reports two classes of a resource if and only if
the schema keeps them apart, and it comes to each such pair once. -/

namespace OntologyLint

variable {data schema : Graph} {listing : View} {scene : Scene} {resource : Resource}
  {pair : DisjointPair}

def Graph.SetsApart (graph : Graph) (a b : Resource) : Prop :=
  a.IsIri ∧ b.IsIri ∧ ¬graph.IsRestriction a ∧ ¬graph.IsRestriction b ∧
    Xor (graph.NamesDatatype a) (graph.NamesDatatype b)

theorem Graph.setsApart_comm {graph : Graph} {a b : Resource} :
    graph.SetsApart a b ↔ graph.SetsApart b a := by
  rw [SetsApart, SetsApart, xor_comm]
  constructor
  · rintro ⟨first, second, firstPlain, secondPlain, different⟩
    exact ⟨second, first, secondPlain, firstPlain, different⟩
  · rintro ⟨first, second, firstPlain, secondPlain, different⟩
    exact ⟨second, first, secondPlain, firstPlain, different⟩

/-- The schema keeps two classes apart: it declares them disjoint, or sets one of them apart as a
datatype where datatypes count as disjoint from other classes. -/
def Graph.KeepsApart (schema : Graph) (listing : View) (datatypesDisjoint : Bool) (a b : Resource) :
    Prop :=
  listing.DeclaresDisjoint a b ∨ datatypesDisjoint = true ∧ schema.SetsApart a b

theorem Graph.keepsApart_comm {datatypesDisjoint : Bool} {a b : Resource} :
    schema.KeepsApart listing datatypesDisjoint a b ↔
      schema.KeepsApart listing datatypesDisjoint b a :=
  or_congr View.declaresDisjoint_comm (and_congr_right fun _ => Graph.setsApart_comm)

namespace Disjointness

section Scene

variable (shows : scene.Shows data schema listing)

include shows

theorem isNamedClass_iff {type : Resource} :
    isNamedClass scene type = true ↔ type.IsIri ∧ ¬schema.IsRestriction type := by
  rw [isNamedClass, Bool.and_eq_true, Bool.not_eq_true', Bool.not_eq_true', Resource.isIri_iff,
    ← shows.isRestriction_iff, Bool.not_eq_true]

theorem isDatatype_bne_iff {a b : Resource} :
    (scene.schema.isDatatype a != scene.schema.isDatatype b) = true ↔
      Xor (schema.NamesDatatype a) (schema.NamesDatatype b) := by
  rw [← shows.isDatatype_iff, ← shows.isDatatype_iff]
  cases scene.schema.isDatatype a with
  | false => cases scene.schema.isDatatype b <;> simp [Xor]
  | true => cases scene.schema.isDatatype b <;> simp [Xor]

theorem areDisjoint_iff :
    areDisjoint scene pair.first pair.second = true ↔
      schema.KeepsApart listing scene.datatypesDisjoint pair.first pair.second := by
  rw [areDisjoint, Bool.or_eq_true, Bool.and_eq_true, Bool.and_eq_true, Bool.and_eq_true,
    isNamedClass_iff shows, isNamedClass_iff shows]
  refine or_congr shows.areDisjoint_iff ?_
  rw [Graph.SetsApart, ← isDatatype_bne_iff shows]
  constructor
  · rintro ⟨⟨⟨enabled, firstIri, firstPlain⟩, secondIri, secondPlain⟩, different⟩
    exact ⟨enabled, firstIri, secondIri, firstPlain, secondPlain, different⟩
  · rintro ⟨enabled, firstIri, secondIri, firstPlain, secondPlain, different⟩
    exact ⟨⟨⟨enabled, firstIri, firstPlain⟩, secondIri, secondPlain⟩, different⟩

omit shows in
/-- The two elements at any places of a sorted set make a pair, in their order. -/
theorem of?_of_mem_pairsOf {types : SortedSet Resource} {a b : Resource}
    (member : (a, b) ∈ pairsOf types.toList) :
    DisjointPair.of? a b = some pair ↔ pair.first = a ∧ pair.second = b := by
  have before := ((mem_pairsOf_increasing types.increasing).1 member).2.2
  rw [DisjointPair.of?, dif_pos before, Option.some.injEq]
  constructor
  · rintro rfl
    exact ⟨rfl, rfl⟩
  · rintro ⟨rfl, rfl⟩
    rfl

omit shows in
theorem mem_disjointPairs {types : SortedSet Resource} :
    pair ∈ disjointPairs scene types.toList ↔
      pair.first ∈ types ∧ pair.second ∈ types ∧
        areDisjoint scene pair.first pair.second = true := by
  rw [disjointPairs, List.mem_filterMap]
  constructor
  · rintro ⟨⟨a, b⟩, member, made⟩
    obtain ⟨paired, apart⟩ := List.mem_filter.1 member
    obtain ⟨rfl, rfl⟩ := (of?_of_mem_pairsOf paired).1 made
    obtain ⟨first, second, _before⟩ := (mem_pairsOf_increasing types.increasing).1 paired
    exact ⟨first, second, apart⟩
  · rintro ⟨first, second, apart⟩
    have paired := (mem_pairsOf_increasing types.increasing).2 ⟨first, second, pair.increasing⟩
    exact ⟨_, List.mem_filter.2 ⟨paired, apart⟩, (of?_of_mem_pairsOf paired).2 ⟨rfl, rfl⟩⟩

omit shows in
theorem nodup_disjointPairs {types : SortedSet Resource} :
    (disjointPairs scene types.toList).Nodup := by
  have distinct := (nodup_pairsOf types.increasing.nodup).filter
    (fun pair => areDisjoint scene pair.1 pair.2)
  refine List.pairwise_filterMap.2 (List.Pairwise.imp_of_mem ?_ distinct)
  rintro ⟨a, b⟩ ⟨c, d⟩ oneMember otherMember different pair made _ again rfl
  obtain ⟨rfl, rfl⟩ := (of?_of_mem_pairsOf (List.mem_filter.1 oneMember).1).1 made
  obtain ⟨rfl, rfl⟩ := (of?_of_mem_pairsOf (List.mem_filter.1 otherMember).1).1 again
  exact different rfl

theorem mem_targets :
    resource ∈ targets scene ↔
      data.Uses resource Rdf.type ∧ (scene.datatypesDisjoint = true ∨
        ∃ pair : DisjointPair, listing.DeclaresDisjoint pair.first pair.second) := by
  have declares : scene.schema.disjoint.isEmpty = false ↔
      ∃ pair : DisjointPair, listing.DeclaresDisjoint pair.first pair.second :=
    List.isEmpty_eq_false_iff_exists_mem.trans (exists_congr fun _ => shows.mem_disjoint)
  rw [targets, ← declares, ← shows.mem_typedResources]
  cases scene.datatypesDisjoint with
  | true => simp [SortedSet.mem_toList]
  | false => cases scene.schema.disjoint.isEmpty <;> simp [SortedSet.mem_toList]

omit shows in
theorem mem_findings {violation : Violation} :
    violation ∈ Check.disjointness.findings scene ↔
      ∃ resource ∈ targets scene, violation ∈ found scene resource :=
  Check.mem_findings_of_targets .disjointness (targets scene) .resource rfl

/-- What keeps the pair apart also keeps the resource among the targets. -/
theorem disjointMembership_mem_findings :
    .disjointMembership resource pair ∈ Check.disjointness.findings scene ↔
      data.Uses resource Rdf.type ∧
        InstanceOf (data.Either schema) resource pair.first ∧
        InstanceOf (data.Either schema) resource pair.second ∧
        schema.KeepsApart listing scene.datatypesDisjoint pair.first pair.second := by
  rw [mem_findings, ← areDisjoint_iff shows, ← shows.mem_typesOf, ← shows.mem_typesOf]
  constructor
  · rintro ⟨other, target, member⟩
    obtain ⟨found, disjoint, same⟩ := mem_found.1 member
    cases same
    exact ⟨((mem_targets shows).1 target).1, mem_disjointPairs.1 disjoint⟩
  · rintro ⟨typed, first, second, apart⟩
    refine ⟨resource, (mem_targets shows).2 ⟨typed, ?_⟩,
      mem_found.2 ⟨pair, mem_disjointPairs.2 ⟨first, second, apart⟩, rfl⟩⟩
    rcases (areDisjoint_iff shows).1 apart with declared | ⟨enabled, _apart⟩
    · exact Or.inr ⟨pair, declared⟩
    · exact Or.inl enabled

end Scene

theorem nodup_targets : (targets scene).Nodup := by
  unfold targets
  split
  · exact List.nodup_nil
  · exact (View.typedResources scene.data).increasing.nodup

theorem nodup_reported (scene : Scene) : (Check.disjointness.reported scene).Nodup := by
  refine Check.nodup_reported_of_resources rfl nodup_targets ?_ ?_
  · intro resource
    exact nodup_disjointPairs.map (fun _ _ same => (Violation.disjointMembership.inj same).2)
  · intro resource violation member
    obtain ⟨_pair, _disjoint, rfl⟩ := mem_found.1 member
    rfl

end Disjointness

/-- In whatever order a validation comes to the triples, two classes of a resource are reported exactly
if the schema keeps them apart, the smaller one first, and the check comes to them once. -/
theorem disjoint_memberships_exact (data schema : Graph) (options : Options)
    (enabled : Check.disjointness ∈ options.checks) :
    options.validate data schema =
        ((Arrangement.forwards data schema).report options).violations ∧
    ∀ arrangement : Arrangement data schema,
      (∀ resource a b : Resource,
        (∃ pair : DisjointPair, pair.first = a ∧ pair.second = b ∧
            .disjointMembership resource pair ∈ (arrangement.report options).violations) ↔
          data.Uses resource Rdf.type ∧ compare a b = .lt ∧
            InstanceOf (data.Either schema) resource a ∧
            InstanceOf (data.Either schema) resource b ∧
            (arrangement.schemaView.DeclaresDisjoint a b ∨
              options.datatypesDisjoint = true ∧ schema.SetsApart a b)) ∧
        (Check.disjointness.reported (arrangement.scene options)).Nodup := by
  refine ⟨(Arrangement.violations_forwards data schema options).symm, ?_⟩
  intro arrangement
  have found {resource : Resource} {pair : DisjointPair} :=
    (arrangement.mem_violations_of_enabled enabled
      (rfl : (Violation.disjointMembership resource pair).kind.check = _)).trans
      (Disjointness.disjointMembership_mem_findings (arrangement.shows options))
  constructor
  · intro resource a b
    constructor
    · rintro ⟨pair, rfl, rfl, reported⟩
      obtain ⟨typed, kept⟩ := found.1 reported
      exact ⟨typed, pair.increasing, kept⟩
    · rintro ⟨typed, before, kept⟩
      exact ⟨⟨a, b, before⟩, rfl, rfl, found.2 ⟨typed, kept⟩⟩
  · exact Disjointness.nodup_reported (arrangement.scene options)

/-! A puppy that is also a cat. -/

namespace Disjointness

def sampleData : List Statement := [
  ⟨.iri "rex", Rdf.type, .resource (.iri "Puppy")⟩,
  ⟨.iri "rex", Rdf.type, .resource (.iri "Cat")⟩]

def sampleSchema : List Statement := [
  ⟨.iri "Puppy", Rdfs.subClassOf, .resource (.iri "Dog")⟩,
  ⟨.iri "Dog", Owl.disjointWith, .resource (.iri "Cat")⟩]

end Disjointness

open Disjointness in
theorem cat_and_dog_disjoint :
    Check.disjointness ∈ ({} : Options).checks ∧
      ∃ pair : DisjointPair, pair.first = .iri "Cat" ∧ pair.second = .iri "Dog" ∧
        .disjointMembership (.iri "rex") pair ∈
          ({} : Options).validate (.ofStatements sampleData) (.ofStatements sampleSchema) := by
  have enabled : Check.disjointness ∈ ({} : Options).checks := Options.mem_checks_default _
  obtain ⟨forwards, exact⟩ := disjoint_memberships_exact (.ofStatements sampleData)
    (.ofStatements sampleSchema) {} enabled
  rw [forwards]
  refine ⟨enabled, ((exact _).1 _ _ _).2 ⟨?_, by decide +kernel, ?_, ?_, Or.inl ?_⟩⟩
  · exact ⟨.resource (.iri "Cat"), Graph.mem_ofStatements_iff.2 (by decide)⟩
  · exact ⟨.iri "Cat", Graph.either_ofStatements.2 (by decide), .refl⟩
  · exact ⟨.iri "Puppy", Graph.either_ofStatements.2 (by decide),
      .single (Or.inl (Graph.either_ofStatements.2 (by decide)))⟩
  · exact Or.inr (Or.inl (Graph.mem_ofStatements_iff.2 (by decide)))

end OntologyLint
