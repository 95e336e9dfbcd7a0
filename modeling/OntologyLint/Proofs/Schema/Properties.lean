import Mathlib.Data.List.Nodup
import OntologyLint.Proofs.Graph.Sameness
import OntologyLint.Proofs.SortedSet
import OntologyLint.Schema.Index

set_option autoImplicit false

/-! What a schema gathers about properties and datatypes, told by the triples of its graph. Every
property with a domain or a range is declared, and its declaration parts the ranges into those that
name datatypes and those that name classes. -/

namespace OntologyLint

namespace Graph

/-- The graph has a domain or a range for the property, or gives it one of the property types. -/
def Declares (graph : Graph) (property : Resource) : Prop :=
  graph.Uses property Rdfs.domain ∨ graph.Uses property Rdfs.range ∨
    ∃ type ∈ propertyTypes, graph.IsTyped property type

def NamesDatatype (graph : Graph) (resource : Resource) : Prop :=
  (∃ name, resource = .iri (Xsd.namespaceText ++ name)) ∨ resource = .iri Rdfs.literal ∨
    resource = .iri Rdf.langString ∨ resource = .iri Rdf.xmlLiteral ∨
    graph.IsTyped resource Rdfs.datatype

theorem namesDatatype_iff (graph : Graph) (resource : Resource) :
    graph.NamesDatatype resource ↔
      isBuiltinDatatype resource = true ∨ graph.IsTyped resource Rdfs.datatype := by
  simp only [NamesDatatype, isBuiltinDatatype, Bool.or_eq_true, beq_iff_eq,
    Resource.inNamespace_iff, or_assoc]

end Graph

variable {graph : Graph} {property range resource : Resource}

namespace View

theorem isDatatype_iff :
    graph.view.isDatatype resource = true ↔ graph.NamesDatatype resource := by
  rw [isDatatype, Bool.or_eq_true, decide_eq_true_eq, mem_instancesOf, Graph.namesDatatype_iff]

theorem mem_declaredProperties :
    property ∈ graph.view.declaredProperties ↔ graph.Declares property := by
  rw [declaredProperties, SortedSet.mem_ofList, List.mem_append, List.mem_append, mem_subjectsOf,
    mem_subjectsOf, List.mem_flatMap, or_assoc]
  exact or_congr_right (or_congr_right
    (exists_congr (fun _ => and_congr_right (fun _ => mem_instancesOf))))

theorem declaredKind?_eq_datatype :
    graph.view.declaredKind? property = some .datatype ↔
      graph.IsTyped property Owl.datatypeProperty := by
  rw [← iri_mem_assertedTypes, declaredKind?]
  split
  · rename_i typed
    simp only [typed]
  · rename_i untyped
    split
    · simp only [untyped, Option.some.injEq, reduceCtorEq]
    · simp only [untyped, reduceCtorEq]

theorem rangeIsDatatype_iff :
    graph.view.rangeIsDatatype property range = true ↔
      graph.IsTyped property Owl.datatypeProperty ∨ graph.NamesDatatype range := by
  rw [rangeIsDatatype, Bool.or_eq_true, beq_iff_eq, declaredKind?_eq_datatype, isDatatype_iff]

theorem mem_domains :
    resource ∈ (graph.view.declarationOf property).domains ↔
      ⟨property, .iri Rdfs.domain, .resource resource⟩ ∈ graph :=
  SortedSet.mem_ofList.trans mem_resourcesOf

theorem mem_datatypeRanges :
    range ∈ (graph.view.declarationOf property).datatypeRanges ↔
      ⟨property, .iri Rdfs.range, .resource range⟩ ∈ graph ∧
        (graph.IsTyped property Owl.datatypeProperty ∨ graph.NamesDatatype range) :=
  SortedSet.mem_filter.trans
    (and_congr (SortedSet.mem_ofList.trans mem_resourcesOf) rangeIsDatatype_iff)

theorem mem_classRanges :
    range ∈ (graph.view.declarationOf property).classRanges ↔
      ⟨property, .iri Rdfs.range, .resource range⟩ ∈ graph ∧
        ¬graph.IsTyped property Owl.datatypeProperty ∧ ¬graph.NamesDatatype range := by
  refine SortedSet.mem_filter.trans
    (and_congr (SortedSet.mem_ofList.trans mem_resourcesOf) ?_)
  rw [Bool.not_eq_true', ← Bool.not_eq_true, rangeIsDatatype_iff, not_or]

end View

namespace Schema

theorem isDatatype_iff {view : View} (lists : view.SameTriples graph.view) :
    (ofView view).isDatatype resource = true ↔ graph.NamesDatatype resource := by
  rw [isDatatype, Bool.or_eq_true, Graph.namesDatatype_iff, SortedSet.contains,
    decide_eq_true_eq]
  exact or_congr_right (SortedSet.mem_ofList.trans (View.mem_subjectsWith.trans (lists _)))

theorem mem_functional {view : View} (lists : view.SameTriples graph.view) :
    property ∈ (ofView view).functional ↔ graph.IsTyped property Owl.functionalProperty :=
  SortedSet.mem_ofList.trans (View.mem_subjectsWith.trans (lists _))

theorem mem_properties {declaration : PropertyDeclaration} :
    declaration ∈ (ofView graph.view).properties ↔
      ∃ property, graph.Declares property ∧ graph.view.declarationOf property = declaration :=
  List.mem_map.trans (exists_congr (fun _ => and_congr_left (fun _ => View.mem_declaredProperties)))

theorem declaration?_eq_some_iff {schema : Schema}
    (distinct : (schema.properties.map PropertyDeclaration.property).Nodup)
    {declaration : PropertyDeclaration} :
    schema.declaration? property = some declaration ↔
      declaration ∈ schema.properties ∧ declaration.property = property := by
  have sound {first : PropertyDeclaration} (found : schema.declaration? property = some first) :
      first ∈ schema.properties ∧ first.property = property := by
    have named := List.find?_some found
    exact ⟨List.mem_of_find?_eq_some found, of_decide_eq_true named⟩
  constructor
  · exact sound
  · rintro ⟨member, named⟩
    cases found : schema.declaration? property with
    | none => exact absurd (decide_eq_true named) (List.find?_eq_none.1 found declaration member)
    | some first =>
        obtain ⟨listed, same⟩ := sound found
        rw [List.inj_on_of_nodup_map distinct listed member (same.trans named.symm)]

theorem map_property_ofView (view : View) :
    (ofView view).properties.map PropertyDeclaration.property = view.declaredProperties.toList := by
  rw [ofView, List.map_map]
  exact List.map_id _

theorem nodup_properties (view : View) :
    ((ofView view).properties.map PropertyDeclaration.property).Nodup := by
  rw [map_property_ofView]
  exact view.declaredProperties.increasing.nodup

/-- A property has at most one declaration, the one that its graph gives. -/
theorem declaration?_eq_some {declaration : PropertyDeclaration} :
    (ofView graph.view).declaration? property = some declaration ↔
      graph.Declares property ∧ graph.view.declarationOf property = declaration := by
  rw [declaration?_eq_some_iff (nodup_properties graph.view), mem_properties]
  constructor
  · rintro ⟨⟨other, declared, rfl⟩, same⟩
    cases same
    exact ⟨declared, rfl⟩
  · rintro ⟨declared, rfl⟩
    exact ⟨⟨property, declared, rfl⟩, rfl⟩

end Schema

theorem Graph.declares_of_domain
    (declared : ⟨property, .iri Rdfs.domain, .resource resource⟩ ∈ graph) :
    graph.Declares property :=
  Or.inl ⟨_, declared⟩

theorem Graph.declares_of_range
    (declared : ⟨property, .iri Rdfs.range, .resource range⟩ ∈ graph) : graph.Declares property :=
  Or.inr (Or.inl ⟨_, declared⟩)

end OntologyLint
