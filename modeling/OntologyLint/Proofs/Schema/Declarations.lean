import Mathlib.Logic.Basic
import OntologyLint.Proofs.Graph.Sameness
import OntologyLint.Proofs.Schema.Properties

set_option autoImplicit false

/-! The declarations of a schema, one for each property that its graph mentions as one. They hold what
the graph says about the property and nothing else, and they are the same in whatever order, and
however often, the triples of the graph are met. -/

namespace OntologyLint

namespace View

variable {one other : View} (types : one.SameOn other Rdf.type)

include types

theorem declaredKind?_congr (property : Resource) :
    one.declaredKind? property = other.declaredKind? property :=
  if_congr types.mem_resourcesOf rfl (if_congr types.mem_resourcesOf rfl rfl)

theorem rangeIsDatatype_congr (property range : Resource) :
    one.rangeIsDatatype property range = other.rangeIsDatatype property range := by
  have datatypes : one.isDatatype range = other.isDatatype range :=
    congrArg (isBuiltinDatatype range || ·) (decide_eq_decide.2 types.mem_subjectsWith)
  rw [rangeIsDatatype, rangeIsDatatype, declaredKind?_congr types, datatypes]

variable (domains : one.SameOn other Rdfs.domain) (ranges : one.SameOn other Rdfs.range)

include domains ranges

theorem declaredProperties_congr : one.declaredProperties = other.declaredProperties := by
  ext property
  simp only [declaredProperties, SortedSet.mem_ofList, List.mem_append, List.mem_flatMap]
  refine or_congr (or_congr domains.mem_subjectsOf ranges.mem_subjectsOf) ?_
  exact exists_congr fun _type => and_congr_right fun _known => types.mem_subjectsWith

theorem declarationOf_congr : one.declarationOf = other.declarationOf := by
  funext property
  have parted : one.rangeIsDatatype property = other.rangeIsDatatype property :=
    funext (rangeIsDatatype_congr types property)
  rw [declarationOf, declarationOf, declaredRanges, declaredRanges, declaredDomains,
    declaredDomains, domains.setOfResources, ranges.setOfResources, parted,
    declaredKind?_congr types]

theorem properties_congr : (Schema.ofView one).properties = (Schema.ofView other).properties := by
  rw [Schema.ofView, Schema.ofView, declaredProperties_congr types domains ranges,
    declarationOf_congr types domains ranges]

end View

theorem View.SameTriples.properties {one other : View} (same : one.SameTriples other) :
    (Schema.ofView one).properties = (Schema.ofView other).properties :=
  properties_congr (same.on Rdf.type) (same.on Rdfs.domain) (same.on Rdfs.range)

theorem View.SameTriples.functional {one other : View} (same : one.SameTriples other) :
    (Schema.ofView one).functional = (Schema.ofView other).functional :=
  setOfInstances_congr (same.on Rdf.type) Owl.functionalProperty

theorem View.kind_declarationOf (view : View) (property : Resource) :
    (view.declarationOf property).kind =
      (view.declaredKind? property).getD
        (if !(view.declarationOf property).datatypeRanges.isEmpty then .datatype
        else if !(view.declarationOf property).classRanges.isEmpty then .object
        else .unspecified) := by
  unfold View.declarationOf
  cases view.declaredKind? property with
  | none => rfl
  | some kind => rfl

namespace Graph

theorem declares_iff {graph : Graph} {property : Resource} :
    graph.Declares property ↔
      graph.Uses property Rdfs.domain ∨ graph.Uses property Rdfs.range ∨
        graph.IsTyped property Rdf.property ∨ graph.IsTyped property Owl.objectProperty ∨
        graph.IsTyped property Owl.datatypeProperty ∨
        graph.IsTyped property Owl.functionalProperty := by
  simp [Declares, propertyTypes]

instance (graph : Graph) (resource : Resource) (type : String) :
    Decidable (graph.IsTyped resource type) :=
  inferInstanceAs (Decidable (_ ∈ graph.triples.toList))

/-- The kind that its types give a property, and without such a type its ranges. -/
def kindOf (graph : Graph) (declaration : PropertyDeclaration) : PropertyKind :=
  if graph.IsTyped declaration.property Owl.datatypeProperty then .datatype
  else if graph.IsTyped declaration.property Owl.objectProperty then .object
  else if declaration.datatypeRanges.toList ≠ [] then .datatype
  else if declaration.classRanges.toList ≠ [] then .object
  else .unspecified

/-- The declaration holds what the graph says about its property, and nothing else. -/
structure Describes (graph : Graph) (declaration : PropertyDeclaration) : Prop where
  domainsIncreasing : Increasing declaration.domains.toList
  domains : ∀ domain, domain ∈ declaration.domains.toList ↔
    ⟨declaration.property, .iri Rdfs.domain, .resource domain⟩ ∈ graph
  classRangesIncreasing : Increasing declaration.classRanges.toList
  datatypeRangesIncreasing : Increasing declaration.datatypeRanges.toList
  disjoint : ∀ range ∈ declaration.classRanges.toList, range ∉ declaration.datatypeRanges.toList
  ranges : ∀ range, range ∈ declaration.classRanges.toList ∨
      range ∈ declaration.datatypeRanges.toList ↔
    ⟨declaration.property, .iri Rdfs.range, .resource range⟩ ∈ graph
  parted : ∀ range, ⟨declaration.property, .iri Rdfs.range, .resource range⟩ ∈ graph →
    (range ∈ declaration.datatypeRanges.toList ↔
      graph.IsTyped declaration.property Owl.datatypeProperty ∨ graph.NamesDatatype range)
  kind : declaration.kind = graph.kindOf declaration

variable {graph : Graph} {property : Resource}

theorem kind_declarationOf : (graph.view.declarationOf property).kind =
    graph.kindOf (graph.view.declarationOf property) := by
  have datatypeType : .iri Owl.datatypeProperty ∈ graph.view.assertedTypes property ↔
      graph.IsTyped property Owl.datatypeProperty := View.iri_mem_assertedTypes
  have objectType : .iri Owl.objectProperty ∈ graph.view.assertedTypes property ↔
      graph.IsTyped property Owl.objectProperty := View.iri_mem_assertedTypes
  have named : (graph.view.declarationOf property).property = property := rfl
  have filled (ranges : SortedSet Resource) : (!ranges.isEmpty) = true ↔ ranges.toList ≠ [] := by
    rw [SortedSet.isEmpty, Bool.not_eq_true', List.isEmpty_eq_false_iff]
  rw [View.kind_declarationOf, View.declaredKind?, kindOf, named]
  simp only [datatypeType, objectType, filled]
  by_cases datatype : graph.IsTyped property Owl.datatypeProperty
  · rw [if_pos datatype, if_pos datatype, Option.getD_some]
  · rw [if_neg datatype, if_neg datatype]
    by_cases object : graph.IsTyped property Owl.objectProperty
    · rw [if_pos object, if_pos object, Option.getD_some]
    · rw [if_neg object, if_neg object, Option.getD_none]

theorem describes_declarationOf : graph.Describes (graph.view.declarationOf property) where
  domainsIncreasing := (graph.view.declarationOf property).domains.increasing
  domains := fun _domain => View.mem_domains
  classRangesIncreasing := (graph.view.declarationOf property).classRanges.increasing
  datatypeRangesIncreasing := (graph.view.declarationOf property).datatypeRanges.increasing
  disjoint := by
    intro range names again
    obtain ⟨_declared, other, unnamed⟩ := View.mem_classRanges.1 names
    rcases (View.mem_datatypeRanges.1 again).2 with typed | named
    · exact other typed
    · exact unnamed named
  ranges := by
    intro range
    rw [SortedSet.mem_toList, SortedSet.mem_toList, View.mem_classRanges, View.mem_datatypeRanges,
      ← and_or_left, ← not_or]
    exact and_iff_left (em' _)
  parted := by
    intro range declared
    exact View.mem_datatypeRanges.trans (and_iff_right declared)
  kind := kind_declarationOf

end Graph

/-- A schema declares exactly the properties that its graph mentions, each once and as the graph
describes it, in whatever order and however often the triples are met. -/
theorem property_index_exact {graph : Graph} {listing : View}
    (lists : listing.SameTriples graph.view) :
    (∀ property, (∃ declaration, (Schema.ofView listing).declaration? property = some declaration) ↔
      graph.Uses property Rdfs.domain ∨ graph.Uses property Rdfs.range ∨
        graph.IsTyped property Rdf.property ∨ graph.IsTyped property Owl.objectProperty ∨
        graph.IsTyped property Owl.datatypeProperty ∨
        graph.IsTyped property Owl.functionalProperty) ∧
    (∀ property declaration,
      (Schema.ofView listing).declaration? property = some declaration →
        declaration.property = property ∧ graph.Describes declaration) ∧
    Increasing ((Schema.ofView listing).properties.map PropertyDeclaration.property) ∧
    Increasing (Schema.ofView listing).functional.toList ∧
    ∀ property, property ∈ (Schema.ofView listing).functional.toList ↔
      graph.IsTyped property Owl.functionalProperty := by
  have found (property : Resource) (declaration : PropertyDeclaration) :
      (Schema.ofView listing).declaration? property = some declaration ↔
        graph.Declares property ∧ graph.view.declarationOf property = declaration := by
    rw [Schema.declaration?, lists.properties]
    exact Schema.declaration?_eq_some
  refine ⟨?_, ?_, ?_, ?_, ?_⟩
  · intro property
    rw [← Graph.declares_iff]
    constructor
    · intro declared
      obtain ⟨declaration, listed⟩ := declared
      exact ((found property declaration).1 listed).1
    · intro declares
      exact ⟨_, (found property _).2 ⟨declares, rfl⟩⟩
  · intro property declaration listed
    obtain ⟨_declares, same⟩ := (found property declaration).1 listed
    rw [← same]
    exact ⟨rfl, Graph.describes_declarationOf⟩
  · rw [lists.properties, Schema.map_property_ofView]
    exact graph.view.declaredProperties.increasing
  · exact (Schema.ofView listing).functional.increasing
  · intro property
    rw [SortedSet.mem_toList]
    exact Schema.mem_functional lists

namespace AgeSchema

/-- A property with a range of each sort and a literal for a domain, and one that only is functional. -/
def statements : List Statement := [
  ⟨.iri "age", Rdfs.domain, .plain "people"⟩,
  ⟨.iri "age", Rdfs.range, .resource (.iri Xsd.integer)⟩,
  ⟨.iri "age", Rdfs.range, .resource (.iri "Number")⟩,
  ⟨.iri "mother", Rdf.type, .resource (.iri Owl.functionalProperty)⟩]

/-- The statements from the last to the first, and all of them once more. -/
def listing : View := ⟨(statements.reverse ++ statements).map Statement.triple⟩

theorem lists : listing.SameTriples (Graph.ofStatements statements).view := by
  apply View.sameTriples_ofStatements
  intro statement
  rw [List.mem_append, List.mem_reverse, or_self]

theorem uses : (Graph.ofStatements statements).Uses (.iri "age") Rdfs.domain :=
  ⟨.literal (.plain "people"), Graph.mem_ofStatements_iff.2 (by decide)⟩

end AgeSchema

open AgeSchema in
theorem age_declared :
    (∃ declaration, (Schema.ofView listing).declaration? (.iri "age") = some declaration ∧
      (Graph.ofStatements statements).Describes declaration) ∧
    .iri "mother" ∈ (Schema.ofView listing).functional.toList := by
  obtain ⟨declared, described, _once, _increasing, functional⟩ := property_index_exact lists
  constructor
  · obtain ⟨declaration, found⟩ := (declared (.iri "age")).2 (Or.inl uses)
    exact ⟨declaration, found, (described (.iri "age") declaration found).2⟩
  · exact (functional (.iri "mother")).2 (Graph.mem_ofStatements_iff.2 (by decide))

end OntologyLint
