import OntologyLint.Graph.Collection
import OntologyLint.Schema.Basic
import OntologyLint.Schema.Count

set_option autoImplicit false

/-! A schema: what a graph declares about properties, disjoint classes, restrictions and datatypes,
gathered once so that the checks can ask for it. -/

namespace OntologyLint

inductive PropertyKind
  | object
  | datatype
  | unspecified
  deriving DecidableEq, Inhabited

/-- What a schema says about one property. Ranges that name classes bind resources, and ranges that
name datatypes bind literals. -/
structure PropertyDeclaration where
  property : Resource
  kind : PropertyKind
  domains : SortedSet Resource
  classRanges : SortedSet Resource
  datatypeRanges : SortedSet Resource

inductive SchemaWarning
  | unreadableCount (restriction : Resource) (predicate : String) (value : Literal)
  | missingQualifier (restriction : Resource) (predicate : String)
  deriving DecidableEq

def SchemaWarning.message : SchemaWarning → String
  | .unreadableCount .. => "skipping cardinality that is not a non-negative integer"
  | .missingQualifier .. => "skipping qualified cardinality without owl:onClass or owl:onDataRange"

/-- A predicate that bounds a number of values, and whether it needs a qualifier. -/
structure BoundPredicate where
  predicate : String
  bound : Nat → Bound
  qualified : Bool

def boundPredicates : List BoundPredicate := [
  ⟨Owl.cardinality, .exact, false⟩,
  ⟨Owl.minCardinality, .min, false⟩,
  ⟨Owl.maxCardinality, .max, false⟩,
  ⟨Owl.qualifiedCardinality, .exact, true⟩,
  ⟨Owl.minQualifiedCardinality, .min, true⟩,
  ⟨Owl.maxQualifiedCardinality, .max, true⟩]

def propertyTypes : List String :=
  [Rdf.property, Owl.objectProperty, Owl.datatypeProperty, Owl.functionalProperty]

def isBuiltinDatatype (resource : Resource) : Bool :=
  resource.inNamespace Xsd.namespaceText || resource == .iri Rdfs.literal ||
    resource == .iri Rdf.langString || resource == .iri Rdf.xmlLiteral

namespace View

def declaredProperties (view : View) : SortedSet Resource :=
  SortedSet.ofList (view.subjectsOf Rdfs.domain ++ view.subjectsOf Rdfs.range ++
    propertyTypes.flatMap view.instancesOf)

def isDatatype (view : View) (resource : Resource) : Bool :=
  isBuiltinDatatype resource || decide (resource ∈ view.instancesOf Rdfs.datatype)

def declaredKind? (view : View) (property : Resource) : Option PropertyKind :=
  if .iri Owl.datatypeProperty ∈ view.assertedTypes property then some .datatype
  else if .iri Owl.objectProperty ∈ view.assertedTypes property then some .object
  else none

/-- Every range of a datatype property names a datatype, declared as one or not. -/
def rangeIsDatatype (view : View) (property range : Resource) : Bool :=
  view.declaredKind? property == some .datatype || view.isDatatype range

/-- All that is declared about one property. Without a declared kind the ranges tell it. -/
def declarationOf (view : View) (property : Resource) : PropertyDeclaration :=
  let ranges := SortedSet.ofList (view.declaredRanges property)
  let datatypeRanges := ranges.filter (view.rangeIsDatatype property)
  let classRanges := ranges.filter (fun range => !view.rangeIsDatatype property range)
  { property
    kind :=
      match view.declaredKind? property with
      | some kind => kind
      | none =>
          if !datatypeRanges.isEmpty then .datatype
          else if !classRanges.isEmpty then .object
          else .unspecified
    domains := SortedSet.ofList (view.declaredDomains property)
    classRanges
    datatypeRanges }

def declaredDisjoint (view : View) : SortedSet DisjointPair :=
  SortedSet.ofList
    (view.disjointnessAssertions.filterMap (fun pair => DisjointPair.of? pair.1 pair.2))

/-- What a qualified bound of a restriction counts; a class goes before a datatype. -/
def qualifierOf? (view : View) (restriction : Resource) : Option Qualifier :=
  match view.resourcesOf restriction Owl.onClass with
  | type :: _ => some (.instances type)
  | [] => (view.resourcesOf restriction Owl.onDataRange).head?.map .literals

def literalsOf (view : View) (subject : Resource) (predicate : String) : List Literal :=
  (view.objectsOf subject predicate).filterMap Object.literal?

/-- The numbers that a restriction gives for a predicate; others of its values are left out. -/
def countsOf (view : View) (restriction : Resource) (predicate : String) : List Nat :=
  (view.literalsOf restriction predicate).filterMap (fun value => Count.read? value.lexical)

def unreadableCounts (view : View) (restriction : Resource) (predicate : String) : List Literal :=
  (view.literalsOf restriction predicate).filter (fun value => (Count.read? value.lexical).isNone)

def restrictionNodes (view : View) : SortedSet Resource :=
  SortedSet.ofList (view.instancesOf Owl.restriction ++ view.subjectsOf Owl.onProperty)

def restrictedProperties (view : View) : List (Resource × Resource) :=
  (view.withPredicate Owl.onProperty).filterMap
    (fun triple => triple.object.resource?.map (fun property => (triple.subject, property)))

/-- The bounds that one predicate of a restriction places on a property. A predicate that needs a
qualifier gives none without it. -/
def boundsBy (view : View) (restriction property : Resource) (kind : BoundPredicate) :
    List Restriction :=
  let counts := view.countsOf restriction kind.predicate
  if kind.qualified then
    match view.qualifierOf? restriction with
    | some qualifier => counts.map (fun count => ⟨property, kind.bound count, some qualifier⟩)
    | none => []
  else counts.map (fun count => ⟨property, kind.bound count, none⟩)

def warningsBy (view : View) (restriction : Resource) (kind : BoundPredicate) :
    List SchemaWarning :=
  (view.unreadableCounts restriction kind.predicate).map
      (.unreadableCount restriction kind.predicate) ++
    if kind.qualified && (view.qualifierOf? restriction).isNone &&
        !(view.countsOf restriction kind.predicate).isEmpty then
      [.missingQualifier restriction kind.predicate]
    else []

def declaredRestrictions (view : View) : List (Resource × Restriction) :=
  view.restrictedProperties.flatMap (fun (node, property) =>
    boundPredicates.flatMap (fun kind =>
      (view.boundsBy node property kind).map (fun restriction => (node, restriction))))

def restrictionWarnings (view : View) : List SchemaWarning :=
  view.restrictedProperties.flatMap (fun (node, _) =>
    boundPredicates.flatMap (view.warningsBy node))

end View

structure Schema where
  properties : List PropertyDeclaration
  functional : SortedSet Resource
  disjoint : SortedSet DisjointPair
  restrictions : List (Resource × Restriction)
  restrictionNodes : SortedSet Resource
  datatypes : SortedSet Resource
  warnings : List SchemaWarning

namespace Schema

def ofView (view : View) : Schema :=
  { properties := view.declaredProperties.toList.map view.declarationOf
    functional := SortedSet.ofList (view.instancesOf Owl.functionalProperty)
    disjoint := view.declaredDisjoint
    restrictions := view.declaredRestrictions
    restrictionNodes := view.restrictionNodes
    datatypes := SortedSet.ofList (view.instancesOf Rdfs.datatype)
    warnings := view.restrictionWarnings }

def declaration? (schema : Schema) (property : Resource) : Option PropertyDeclaration :=
  schema.properties.find? (fun declaration => declaration.property = property)

def isDatatype (schema : Schema) (resource : Resource) : Bool :=
  isBuiltinDatatype resource || schema.datatypes.contains resource

def areDisjoint (schema : Schema) (a b : Resource) : Bool :=
  match DisjointPair.of? a b with
  | some pair => schema.disjoint.contains pair
  | none => false

def restrictionsFor (schema : Schema) (type : Resource) : List Restriction :=
  schema.restrictions.filterMap
    (fun (node, restriction) => if node = type then some restriction else none)

def isRestriction (schema : Schema) (type : Resource) : Bool :=
  schema.restrictionNodes.contains type

def hasRestrictions (schema : Schema) : Bool := !schema.restrictions.isEmpty

end Schema

end OntologyLint
