import OntologyLint.Document.Format
import OntologyLint.Document.Lines
import OntologyLint.Document.RdfXml.Meaning
import OntologyLint.Document.Turtle.Meaning

set_option autoImplicit false

/-! The statements of a document in any of the formats. -/

namespace OntologyLint.GraphFormat

/-- The statements of a document, or none if it is not written in the format. Nodes without a name
are labelled by the number of the document. -/
def read? (format : GraphFormat) (document : Nat) (text : String) : Option (List Quad) :=
  match format with
  | .turtle => Document.Turtle.read? false document text
  | .trig => Document.Turtle.read? true document text
  | .nTriples => Document.Lines.read? false text
  | .nQuads => Document.Lines.read? true text
  | .rdfXml => Document.RdfXml.read? document text

end OntologyLint.GraphFormat
