import OntologyLint.Term.Basic

set_option autoImplicit false

/-! Graphs and the questions that are asked of them. A graph is a set of triples with IRI
predicates. Questions go to a view, which lists the triples of one graph or of two graphs side by
side; side by side a triple of both graphs is met twice. -/

namespace OntologyLint

/-- A triple as it is written down: its predicate is the text of an IRI. -/
structure Statement where
  subject : Resource
  predicate : String
  object : Term
  deriving DecidableEq, Inhabited

def Statement.triple (statement : Statement) : Triple :=
  ⟨statement.subject, .iri statement.predicate, statement.object.stored⟩

/-- A statement filed under a graph name, or under none. -/
structure Quad where
  statement : Statement
  graphName : Option Resource := none
  deriving DecidableEq, Inhabited

/-- A finite set of triples that can be written down. -/
structure Graph where
  triples : SortedSet Triple
  written : ∀ triple ∈ triples, ∃ statement : Statement, statement.triple = triple

namespace Graph

theorem eq_of_triples {left right : Graph} (same : left.triples = right.triples) :
    left = right := by
  cases left; cases right; simp_all

instance : Membership Triple Graph := ⟨fun graph triple => triple ∈ graph.triples⟩

@[ext]
theorem ext {left right : Graph} (same : ∀ triple, triple ∈ left ↔ triple ∈ right) : left = right :=
  eq_of_triples (SortedSet.ext same)

def empty : Graph := ⟨∅, fun triple found => absurd found (SortedSet.not_mem_empty triple)⟩

instance : EmptyCollection Graph := ⟨empty⟩

instance : Inhabited Graph := ⟨empty⟩

def ofStatements (statements : List Statement) : Graph :=
  ⟨SortedSet.ofList (statements.map Statement.triple), by
    intro triple found
    obtain ⟨statement, _listed, same⟩ := List.mem_map.1 (SortedSet.mem_ofList.1 found)
    exact ⟨statement, same⟩⟩

theorem mem_ofStatements {statements : List Statement} {triple : Triple} :
    triple ∈ ofStatements statements ↔ ∃ statement ∈ statements, statement.triple = triple :=
  SortedSet.mem_ofList.trans List.mem_map

def insert (statement : Statement) (graph : Graph) : Graph :=
  ⟨graph.triples.insert statement.triple, by
    intro triple found
    rcases SortedSet.mem_insert.1 found with rfl | old
    · exact ⟨statement, rfl⟩
    · exact graph.written triple old⟩

theorem mem_insert {statement : Statement} {graph : Graph} {triple : Triple} :
    triple ∈ graph.insert statement ↔ triple = statement.triple ∨ triple ∈ graph :=
  SortedSet.mem_insert

def merge (left right : Graph) : Graph :=
  ⟨left.triples ∪ right.triples, by
    intro triple found
    rcases SortedSet.mem_union.1 found with one | other
    · exact left.written triple one
    · exact right.written triple other⟩

theorem mem_merge {left right : Graph} {triple : Triple} :
    triple ∈ left.merge right ↔ triple ∈ left ∨ triple ∈ right :=
  SortedSet.mem_union

def size (graph : Graph) : Nat := graph.triples.size

end Graph

/-- A list of triples to be questioned. -/
structure View where
  triples : List Triple

def Graph.view (graph : Graph) : View := ⟨graph.triples.toList⟩

/-- Two graphs side by side, without merging them. -/
def Graph.beside (first second : Graph) : View := ⟨first.triples.toList ++ second.triples.toList⟩

namespace View

def length (view : View) : Nat := view.triples.length

def isEmpty (view : View) : Bool := view.triples.isEmpty

def withPredicate (view : View) (predicate : String) : List Triple :=
  view.triples.filter (fun triple => triple.predicate = .iri predicate)

def objectsOf (view : View) (subject : Resource) (predicate : String) : List Object :=
  ((view.withPredicate predicate).filter (fun triple => triple.subject = subject)).map Triple.object

/-- The resources that a predicate leads to from a subject; literals are left out. -/
def resourcesOf (view : View) (subject : Resource) (predicate : String) : List Resource :=
  (view.objectsOf subject predicate).filterMap Object.resource?

def subjectsWith (view : View) (predicate : String) (object : Resource) : List Resource :=
  ((view.withPredicate predicate).filter (fun triple => triple.object = .resource object)).map
    Triple.subject

def subjectsOf (view : View) (predicate : String) : List Resource :=
  (view.withPredicate predicate).map Triple.subject

def assertedTypes (view : View) (resource : Resource) : List Resource :=
  view.resourcesOf resource Rdf.type

def instancesOf (view : View) (type : String) : List Resource :=
  view.subjectsWith Rdf.type (.iri type)

/-- The direct superclasses of a class. Equivalence counts as a subclass edge both ways. -/
def superclasses (view : View) (type : Resource) : List Resource :=
  view.resourcesOf type Rdfs.subClassOf ++ view.resourcesOf type Owl.equivalentClass ++
    view.subjectsWith Owl.equivalentClass type

def typedResources (view : View) : SortedSet Resource :=
  SortedSet.ofList (view.subjectsOf Rdf.type)

def declaredDomains (view : View) (property : Resource) : List Resource :=
  view.resourcesOf property Rdfs.domain

def declaredRanges (view : View) (property : Resource) : List Resource :=
  view.resourcesOf property Rdfs.range

theorem mem_withPredicate {view : View} {predicate : String} {triple : Triple} :
    triple ∈ view.withPredicate predicate ↔
      triple ∈ view.triples ∧ triple.predicate = .iri predicate := by
  simp [withPredicate]

theorem mem_objectsOf {view : View} {subject : Resource} {predicate : String} {object : Object} :
    object ∈ view.objectsOf subject predicate ↔
      ⟨subject, .iri predicate, object⟩ ∈ view.triples := by
  simp only [objectsOf, List.mem_map, List.mem_filter, mem_withPredicate, decide_eq_true_eq]
  constructor
  · rintro ⟨⟨s, p, o⟩, ⟨⟨found, rfl⟩, rfl⟩, rfl⟩
    exact found
  · intro found
    exact ⟨_, ⟨⟨found, rfl⟩, rfl⟩, rfl⟩

theorem mem_resourcesOf {view : View} {subject : Resource} {predicate : String}
    {object : Resource} :
    object ∈ view.resourcesOf subject predicate ↔
      ⟨subject, .iri predicate, .resource object⟩ ∈ view.triples := by
  rw [resourcesOf, List.mem_filterMap, ← mem_objectsOf]
  constructor
  · rintro ⟨object, found, same⟩
    cases object with
    | resource value => cases same; exact found
    | literal value => cases same
  · intro found
    exact ⟨_, found, rfl⟩

theorem mem_subjectsWith {view : View} {subject : Resource} {predicate : String}
    {object : Resource} :
    subject ∈ view.subjectsWith predicate object ↔
      ⟨subject, .iri predicate, .resource object⟩ ∈ view.triples := by
  simp only [subjectsWith, List.mem_map, List.mem_filter, mem_withPredicate, decide_eq_true_eq]
  constructor
  · rintro ⟨⟨s, p, o⟩, ⟨⟨found, rfl⟩, rfl⟩, rfl⟩
    exact found
  · intro found
    exact ⟨_, ⟨⟨found, rfl⟩, rfl⟩, rfl⟩

end View

end OntologyLint
