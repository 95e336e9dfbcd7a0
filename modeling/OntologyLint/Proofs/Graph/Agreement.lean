import OntologyLint.Proofs.Graph.Order
import OntologyLint.Proofs.Graph.Sameness
import OntologyLint.Proofs.Hierarchy.Instances
import OntologyLint.Proofs.Schema.Properties
import OntologyLint.Proofs.Schema.Restrictions

set_option autoImplicit false

/-! Views and graphs that have the same triples of some predicate. Whatever is read off those triples
alone is the same for both: types and the hierarchy above them, collections, datatypes and
qualifiers. Views that are the same but for one triple agree on all predicates but that of the triple. -/

namespace OntologyLint

open OntologyLint.Graph (choosingPredicates)

namespace View

variable {one other : View} {predicate : String}

def AgreesOn (one other : View) (predicate : String) : Prop :=
  one.withPredicate predicate = other.withPredicate predicate

namespace AgreesOn

variable (agrees : one.AgreesOn other predicate)

include agrees

theorem withPredicate_eq : one.withPredicate predicate = other.withPredicate predicate := agrees

theorem subjectsOf_eq : one.subjectsOf predicate = other.subjectsOf predicate := by
  rw [subjectsOf, subjectsOf, agrees.withPredicate_eq]

theorem subjectsWith_eq (object : Resource) :
    one.subjectsWith predicate object = other.subjectsWith predicate object := by
  rw [subjectsWith, subjectsWith, agrees.withPredicate_eq]

theorem objectsOf_eq (subject : Resource) :
    one.objectsOf subject predicate = other.objectsOf subject predicate := by
  rw [objectsOf, objectsOf, agrees.withPredicate_eq]

theorem resourcesOf_eq (subject : Resource) :
    one.resourcesOf subject predicate = other.resourcesOf subject predicate := by
  rw [resourcesOf, resourcesOf, agrees.objectsOf_eq]

theorem sameOn : one.SameOn other predicate := by
  intro subject object
  rw [← mem_objectsOf, ← mem_objectsOf, agrees.objectsOf_eq]

end AgreesOn

/-- A walk reads nothing but the cells of collections. -/
theorem listMembers_eq (firsts : one.AgreesOn other Rdf.first)
    (rests : one.AgreesOn other Rdf.rest) : one.listMembers = other.listMembers := by
  funext head
  apply listMembers_congr
  · intro cell
    rw [firsts.objectsOf_eq]
  · intro cell
    rw [rests.resourcesOf_eq]
  · intro cell
    rw [firsts.subjectsOf_eq]

/-- The views make the same choices wherever the first of several answers counts: of the members and
successors of cells, and of qualifiers. -/
structure ChoosesAs (one other : View) : Prop where
  members : one.listMembers = other.listMembers
  qualifiers : one.qualifierOf? = other.qualifierOf?

theorem choosesAs_of_agreesOn
    (agrees : ∀ predicate ∈ choosingPredicates, one.AgreesOn other predicate) :
    one.ChoosesAs other where
  members := listMembers_eq (agrees _ (by simp [choosingPredicates]))
    (agrees _ (by simp [choosingPredicates]))
  qualifiers := by
    have classes := agrees Owl.onClass (by simp [choosingPredicates])
    have datatypes := agrees Owl.onDataRange (by simp [choosingPredicates])
    funext node
    rw [qualifierOf?, qualifierOf?, classes.resourcesOf_eq, datatypes.resourcesOf_eq]

theorem ChoosesAs.symm (chooses : one.ChoosesAs other) : other.ChoosesAs one :=
  ⟨chooses.members.symm, chooses.qualifiers.symm⟩

theorem ChoosesAs.trans {third : View} (first : one.ChoosesAs other)
    (second : other.ChoosesAs third) : one.ChoosesAs third :=
  ⟨first.members.trans second.members, first.qualifiers.trans second.qualifiers⟩

theorem ChoosesAs.qualifies_iff {node : Resource} {qualifier : Qualifier}
    (chooses : one.ChoosesAs other) :
    one.Qualifies node qualifier ↔ other.Qualifies node qualifier := by
  rw [← qualifierOf?_eq_some, ← qualifierOf?_eq_some, chooses.qualifiers]

theorem ChoosesAs.qualifiesBound_iff {node : Resource} {kind : BoundPredicate}
    {qualifier : Option Qualifier} (chooses : one.ChoosesAs other) :
    one.QualifiesBound node kind qualifier ↔ other.QualifiesBound node kind qualifier := by
  cases qualifier with
  | none => exact Iff.rfl
  | some given => exact and_congr_right (fun _ => chooses.qualifies_iff)

section Without

variable {triple : Triple}

def without (view : View) (triple : Triple) : View :=
  ⟨view.triples.filter (fun listed => listed ≠ triple)⟩

/-- The views list all triples but this one in the same order. -/
def AgreesBut (one : View) (triple : Triple) (other : View) : Prop :=
  one.without triple = other.without triple

theorem without_agreesOn (view : View) (different : triple.predicate ≠ .iri predicate) :
    (view.without triple).AgreesOn view predicate := by
  rw [AgreesOn, withPredicate, withPredicate, without, List.filter_filter]
  apply List.filter_congr
  intro listed _member
  rw [Bool.and_eq_left_iff_imp, decide_eq_true_eq, decide_eq_true_eq]
  rintro used rfl
  exact different used

theorem AgreesBut.agreesOn (agrees : one.AgreesBut triple other)
    (different : triple.predicate ≠ .iri predicate) : one.AgreesOn other predicate := by
  have left := one.without_agreesOn different
  have right := other.without_agreesOn different
  rw [agrees] at left
  exact left.symm.trans right

theorem AgreesBut.agreesOn_of_not_mem {statement : Statement} {predicates : List String}
    (agrees : one.AgreesBut statement.triple other) (apart : statement.predicate ∉ predicates) :
    ∀ predicate ∈ predicates, one.AgreesOn other predicate := by
  intro predicate known
  apply agrees.agreesOn
  intro same
  rw [← Resource.iri.inj same] at known
  exact apart known

theorem without_agreesBut (view : View) (triple : Triple) :
    (view.without triple).AgreesBut triple view := by
  rw [AgreesBut, without, without, List.filter_filter]
  simp only [Bool.and_self]

/-- The larger view lists the triple once more than the smaller one, and the others as it does. -/
def Gains (triple : Triple) (smaller larger : View) : Prop :=
  ∃ before after, smaller.triples = before ++ after ∧ larger.triples = before ++ triple :: after

theorem Gains.agreesBut (gains : Gains triple one other) : one.AgreesBut triple other := by
  obtain ⟨before, after, fewer, more⟩ := gains
  rw [AgreesBut, without, without, fewer, more]
  simp

end Without

/-- A search for classes climbs over three predicates and sees no other. -/
theorem typesOf_eq (agrees : ∀ predicate ∈ hierarchyPredicates, one.AgreesOn other predicate) :
    one.typesOf = other.typesOf := by
  funext resource
  ext type
  rw [mem_typesOf, mem_typesOf]
  exact InstanceOf.congr (fun predicate known => (agrees predicate known).sameOn)

end View

namespace Graph

variable {first second : Graph} {predicate : String} {subject resource type : Resource}

def AgreesOn (first second : Graph) (predicate : String) : Prop :=
  ∀ subject object, ⟨subject, .iri predicate, object⟩ ∈ first ↔
    ⟨subject, .iri predicate, object⟩ ∈ second

theorem AgreesOn.view (agrees : first.AgreesOn second predicate) :
    first.view.AgreesOn second.view predicate := by
  refine SortedSet.eq_of_increasing (first.triples.increasing.filter _)
    (second.triples.increasing.filter _) ?_
  rintro ⟨subject, used, object⟩
  rw [View.mem_withPredicate, View.mem_withPredicate]
  refine and_congr_left ?_
  -- Only triples that use the predicate are kept, and on those the graphs agree.
  rintro rfl
  exact agrees subject object

theorem AgreesOn.beside (agrees : first.AgreesOn second predicate) (data : Graph) :
    (data.beside first).AgreesOn (data.beside second) predicate := by
  have parted (graph : Graph) : (data.beside graph).withPredicate predicate =
      data.view.withPredicate predicate ++ graph.view.withPredicate predicate :=
    List.filter_append ..
  rw [View.AgreesOn, parted, parted, agrees.view.withPredicate_eq]

theorem agreesOn_insert {statement : Statement} (graph : Graph)
    (different : statement.predicate ≠ predicate) :
    graph.AgreesOn (graph.insert statement) predicate := by
  intro subject object
  constructor
  · intro old
    exact mem_insert.2 (Or.inr old)
  · intro member
    rcases mem_insert.1 member with added | old
    · have same : predicate = statement.predicate :=
        Resource.iri.inj (congrArg Triple.predicate added)
      exact absurd same.symm different
    · exact old

theorem agreesOn_insert_of_not_mem {statement : Statement} {predicates : List String}
    (graph : Graph) (apart : statement.predicate ∉ predicates) :
    ∀ predicate ∈ predicates, graph.AgreesOn (graph.insert statement) predicate := by
  intro predicate known
  apply agreesOn_insert
  intro same
  rw [same] at apart
  exact apart known

/-- However the triple is added, it is the only one that is listed elsewhere. -/
theorem agreesBut_insert (graph : Graph) (statement : Statement) :
    graph.view.AgreesBut statement.triple (graph.insert statement).view := by
  refine congrArg View.mk (SortedSet.eq_of_increasing (graph.triples.increasing.filter _)
    ((graph.insert statement).triples.increasing.filter _) ?_)
  intro triple
  rw [List.mem_filter, List.mem_filter, decide_eq_true_eq]
  refine and_congr_left ?_
  intro other
  exact (mem_insert.trans (or_iff_right other)).symm

/-- A statement that no choice is made by leaves a graph determinate. -/
theorem Determinate.insert {statement : Statement} (determinate : first.Determinate)
    (unchosen : statement.predicate ∉ choosingPredicates) :
    (first.insert statement).Determinate := by
  have agrees := agreesOn_insert_of_not_mem first unchosen
  have members := agrees Rdf.first (by simp [choosingPredicates])
  have leads {predicate : String} (known : predicate ∈ choosingPredicates)
      (unique : first.LeadsToOne predicate) : (first.insert statement).LeadsToOne predicate := by
    intro node a b one other
    exact unique node a b ((agrees predicate known node _).2 one)
      ((agrees predicate known node _).2 other)
  refine ⟨?_, leads (by simp [choosingPredicates]) determinate.successor,
    leads (by simp [choosingPredicates]) determinate.classQualifier,
    leads (by simp [choosingPredicates]) determinate.datatypeQualifier⟩
  intro node a b one other
  exact determinate.member node a b ((members node a).2 one) ((members node b).2 other)

theorem AgreesOn.uses_iff (agrees : first.AgreesOn second predicate) :
    first.Uses subject predicate ↔ second.Uses subject predicate :=
  exists_congr (agrees subject)

theorem AgreesOn.namesDatatype_iff (types : first.AgreesOn second Rdf.type) :
    first.NamesDatatype resource ↔ second.NamesDatatype resource := by
  rw [Graph.namesDatatype_iff, Graph.namesDatatype_iff]
  exact or_congr_right (types resource _)

/-- The classes of a resource over two graphs side by side hang on three predicates alone. -/
theorem instanceOf_iff {data : Graph}
    (agrees : ∀ predicate ∈ hierarchyPredicates, first.AgreesOn second predicate) :
    InstanceOf (data.Either first) resource type ↔ InstanceOf (data.Either second) resource type :=
  InstanceOf.congr (fun predicate known subject object =>
    or_congr_right (agrees predicate known subject object))

end Graph

end OntologyLint
