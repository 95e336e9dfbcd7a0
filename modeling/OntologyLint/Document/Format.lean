import OntologyLint.Files.Path

set_option autoImplicit false

/-! The written forms of graphs that can be read, by name and by file extension. -/

namespace OntologyLint

inductive GraphFormat
  | turtle
  | nTriples
  | nQuads
  | trig
  | rdfXml
  deriving DecidableEq, Inhabited

namespace GraphFormat

def all : List GraphFormat := [.turtle, .nTriples, .nQuads, .trig, .rdfXml]

def name : GraphFormat → String
  | .turtle => "turtle"
  | .nTriples => "n-triples"
  | .nQuads => "n-quads"
  | .trig => "trig"
  | .rdfXml => "rdf-xml"

def ofName? (name : String) : Option GraphFormat := all.find? (fun format => format.name = name)

/-- The file extensions of a format in lower case, the usual one first. -/
def extensions : GraphFormat → List String
  | .turtle => ["ttl", "turtle"]
  | .nTriples => ["nt"]
  | .nQuads => ["nq"]
  | .trig => ["trig"]
  | .rdfXml => ["rdf", "owl", "xml"]

def ofPath? (path : String) : Option GraphFormat :=
  match Path.extension? path with
  | none => none
  | some ending => all.find? (fun format => format.extensions.contains ending.toLower)

end GraphFormat

end OntologyLint
