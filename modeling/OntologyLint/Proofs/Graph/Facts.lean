import OntologyLint.Graph.Basic

set_option autoImplicit false

/-! What views list, told by the graphs behind them. A fact of two graphs side by side is a triple
of either one. -/

namespace OntologyLint

def Resource.IsIri (resource : Resource) : Prop := ∃ text, resource = .iri text

theorem Resource.isIri_iff (resource : Resource) :
    resource.IsIri ↔ resource.isBlank = false := by
  cases resource with
  | iri text => simp [IsIri, isBlank]
  | blank label => simp [IsIri, isBlank]
  | anonymous document node => simp [IsIri, isBlank]

theorem Resource.IsIri.iri_text {resource : Resource} (named : resource.IsIri) :
    .iri resource.text = resource := by
  obtain ⟨text, rfl⟩ := named
  rfl

theorem Resource.inNamespace_iff (start : String) (resource : Resource) :
    resource.inNamespace start = true ↔ ∃ name, resource = .iri (start ++ name) := by
  cases resource with
  | blank label => simp [inNamespace]
  | anonymous document node => simp [inNamespace]
  | iri text =>
      rw [inNamespace, List.isPrefixOf_iff_prefix]
      constructor
      · rintro ⟨rest, joined⟩
        refine ⟨String.ofList rest, congrArg Resource.iri (String.toList_inj.1 ?_)⟩
        rw [String.toList_append, String.toList_ofList]
        exact joined.symm
      · rintro ⟨name, same⟩
        cases same
        rw [String.toList_append]
        exact List.prefix_append _ _

theorem Object.resource?_eq_some {object : Object} {resource : Resource} :
    object.resource? = some resource ↔ object = .resource resource := by
  cases object <;> simp [resource?]

theorem Object.literal?_eq_some {object : Object} {literal : Literal} :
    object.literal? = some literal ↔ object = .literal literal := by
  cases object <;> simp [literal?]

namespace Graph

variable {graph first second : Graph} {triple : Triple}

def Either (first second : Graph) (triple : Triple) : Prop := triple ∈ first ∨ triple ∈ second

def IsTyped (graph : Graph) (resource : Resource) (type : String) : Prop :=
  ⟨resource, .iri Rdf.type, .resource (.iri type)⟩ ∈ graph

def Uses (graph : Graph) (subject : Resource) (predicate : String) : Prop :=
  ∃ object, ⟨subject, .iri predicate, object⟩ ∈ graph

theorem predicate_isIri (member : triple ∈ graph) : triple.predicate.IsIri := by
  obtain ⟨statement, rfl⟩ := graph.written triple member
  exact ⟨statement.predicate, rfl⟩

theorem literal_typed_or_tagged {literal : Literal} (member : triple ∈ graph)
    (shown : triple.object = .literal literal) :
    (∃ datatype, literal = .typed literal.lexical datatype) ∨
      ∃ language, literal = .tagged literal.lexical language := by
  obtain ⟨⟨subject, predicate, object⟩, rfl⟩ := graph.written triple member
  cases object with
  | resource value => cases shown
  | typed lexical datatype =>
      cases shown
      exact Or.inl ⟨datatype, rfl⟩
  | tagged lexical language =>
      cases shown
      exact Or.inr ⟨language, rfl⟩

theorem datatype_isIri {literal : Literal} (member : triple ∈ graph)
    (shown : triple.object = .literal literal) : literal.datatype.IsIri := by
  rcases literal_typed_or_tagged member shown with ⟨datatype, same⟩ | ⟨language, same⟩
  · rw [same]
    exact ⟨datatype, rfl⟩
  · rw [same]
    exact ⟨Rdf.langString, rfl⟩

theorem mem_view : triple ∈ graph.view.triples ↔ triple ∈ graph := Iff.rfl

theorem mem_ofStatements_iff {statements : List Statement} :
    triple ∈ ofStatements statements ↔ triple ∈ statements.map Statement.triple :=
  SortedSet.mem_ofList

theorem either_ofStatements {some others : List Statement} :
    (ofStatements some).Either (ofStatements others) triple ↔
      triple ∈ (some ++ others).map Statement.triple := by
  rw [List.map_append, List.mem_append]
  exact or_congr mem_ofStatements_iff mem_ofStatements_iff

theorem mem_beside : triple ∈ (first.beside second).triples ↔ first.Either second triple :=
  List.mem_append

end Graph

namespace View

theorem mem_subjectsOf {view : View} {subject : Resource} {predicate : String} :
    subject ∈ view.subjectsOf predicate ↔
      ∃ object, ⟨subject, .iri predicate, object⟩ ∈ view.triples := by
  simp only [subjectsOf, List.mem_map, mem_withPredicate]
  constructor
  · rintro ⟨⟨s, p, o⟩, ⟨found, rfl⟩, rfl⟩
    exact ⟨o, found⟩
  · rintro ⟨object, found⟩
    exact ⟨_, ⟨found, rfl⟩, rfl⟩

theorem mem_edges {view : View} {predicate : String} {a b : Resource} :
    (a, b) ∈ (view.withPredicate predicate).filterMap
        (fun triple => triple.object.resource?.map (fun other => (triple.subject, other))) ↔
      ⟨a, .iri predicate, .resource b⟩ ∈ view.triples := by
  rw [List.mem_filterMap]
  constructor
  · rintro ⟨⟨s, p, o⟩, member, same⟩
    obtain ⟨declared, rfl⟩ := mem_withPredicate.1 member
    obtain ⟨other, found, same⟩ := Option.map_eq_some_iff.1 same
    cases same
    cases o with
    | resource value => cases found; exact declared
    | literal value => cases found
  · intro declared
    exact ⟨_, mem_withPredicate.2 ⟨declared, rfl⟩, rfl⟩

theorem mem_instancesOf {graph : Graph} {resource : Resource} {type : String} :
    resource ∈ graph.view.instancesOf type ↔ graph.IsTyped resource type :=
  mem_subjectsWith

theorem iri_mem_assertedTypes {graph : Graph} {resource : Resource} {type : String} :
    .iri type ∈ graph.view.assertedTypes resource ↔ graph.IsTyped resource type :=
  mem_resourcesOf

theorem objectsOf_isEmpty {graph : Graph} {subject : Resource} {predicate : String} :
    (graph.view.objectsOf subject predicate).isEmpty = false ↔ graph.Uses subject predicate :=
  List.isEmpty_eq_false_iff_exists_mem.trans (exists_congr (fun _ => mem_objectsOf))

end View

end OntologyLint
