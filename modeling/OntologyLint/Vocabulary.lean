set_option autoImplicit false

/-! The terms of the four vocabularies that give a schema its meaning, by their full text. -/

namespace OntologyLint

namespace Rdf

def namespaceText : String := "http://www.w3.org/1999/02/22-rdf-syntax-ns#"

def type : String := "http://www.w3.org/1999/02/22-rdf-syntax-ns#type"
def property : String := "http://www.w3.org/1999/02/22-rdf-syntax-ns#Property"
def first : String := "http://www.w3.org/1999/02/22-rdf-syntax-ns#first"
def rest : String := "http://www.w3.org/1999/02/22-rdf-syntax-ns#rest"
def nil : String := "http://www.w3.org/1999/02/22-rdf-syntax-ns#nil"
def langString : String := "http://www.w3.org/1999/02/22-rdf-syntax-ns#langString"
def xmlLiteral : String := "http://www.w3.org/1999/02/22-rdf-syntax-ns#XMLLiteral"

end Rdf

namespace Rdfs

def domain : String := "http://www.w3.org/2000/01/rdf-schema#domain"
def range : String := "http://www.w3.org/2000/01/rdf-schema#range"
def subClassOf : String := "http://www.w3.org/2000/01/rdf-schema#subClassOf"
def datatype : String := "http://www.w3.org/2000/01/rdf-schema#Datatype"
def literal : String := "http://www.w3.org/2000/01/rdf-schema#Literal"

end Rdfs

namespace Owl

def thing : String := "http://www.w3.org/2002/07/owl#Thing"
def objectProperty : String := "http://www.w3.org/2002/07/owl#ObjectProperty"
def datatypeProperty : String := "http://www.w3.org/2002/07/owl#DatatypeProperty"
def functionalProperty : String := "http://www.w3.org/2002/07/owl#FunctionalProperty"
def equivalentClass : String := "http://www.w3.org/2002/07/owl#equivalentClass"
def disjointWith : String := "http://www.w3.org/2002/07/owl#disjointWith"
def allDisjointClasses : String := "http://www.w3.org/2002/07/owl#AllDisjointClasses"
def members : String := "http://www.w3.org/2002/07/owl#members"
def restriction : String := "http://www.w3.org/2002/07/owl#Restriction"
def onProperty : String := "http://www.w3.org/2002/07/owl#onProperty"
def onClass : String := "http://www.w3.org/2002/07/owl#onClass"
def onDataRange : String := "http://www.w3.org/2002/07/owl#onDataRange"
def cardinality : String := "http://www.w3.org/2002/07/owl#cardinality"
def minCardinality : String := "http://www.w3.org/2002/07/owl#minCardinality"
def maxCardinality : String := "http://www.w3.org/2002/07/owl#maxCardinality"
def qualifiedCardinality : String := "http://www.w3.org/2002/07/owl#qualifiedCardinality"
def minQualifiedCardinality : String := "http://www.w3.org/2002/07/owl#minQualifiedCardinality"
def maxQualifiedCardinality : String := "http://www.w3.org/2002/07/owl#maxQualifiedCardinality"

end Owl

namespace Xsd

def namespaceText : String := "http://www.w3.org/2001/XMLSchema#"

def named (name : String) : String := namespaceText ++ name

def string : String := "http://www.w3.org/2001/XMLSchema#string"
def boolean : String := "http://www.w3.org/2001/XMLSchema#boolean"
def integer : String := "http://www.w3.org/2001/XMLSchema#integer"
def decimal : String := "http://www.w3.org/2001/XMLSchema#decimal"
def double : String := "http://www.w3.org/2001/XMLSchema#double"

end Xsd

end OntologyLint
