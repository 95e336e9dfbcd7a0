import OntologyLint.Validation.JsonReport
import OntologyLint.Validation.TextReport

set_option autoImplicit false

/-! The forms that a report can be printed in. -/

namespace OntologyLint

inductive ReportFormat
  | text
  | json
  deriving DecidableEq, Inhabited

namespace ReportFormat

def all : List ReportFormat := [.text, .json]

def name : ReportFormat → String
  | .text => "text"
  | .json => "json"

def ofName? (name : String) : Option ReportFormat := all.find? (fun format => format.name = name)

def render : ReportFormat → Report → String
  | .text, report => report.text
  | .json, report => report.jsonText

end ReportFormat

end OntologyLint
