import OntologyLint.Check.Basic
import OntologyLint.Document.Format
import OntologyLint.Validation.ReportFormat

set_option autoImplicit false

/-! What a command line can say: options that take values, and flags that take none. -/

namespace OntologyLint

def programVersion : String := "0.1.0"

inductive ValueOption
  | config
  | schema
  | data
  | inputFormat
  | format
  | checks
  deriving DecidableEq, Inhabited

namespace ValueOption

def all : List ValueOption := [.config, .schema, .data, .inputFormat, .format, .checks]

def name : ValueOption → String
  | .config => "config"
  | .schema => "schema"
  | .data => "data"
  | .inputFormat => "input-format"
  | .format => "format"
  | .checks => "checks"

def environmentName : ValueOption → String
  | .config => "RDF_VALIDATE_CONFIG"
  | .schema => "RDF_VALIDATE_SCHEMA"
  | .data => "RDF_VALIDATE_DATA"
  | .inputFormat => "RDF_VALIDATE_INPUT_FORMAT"
  | .format => "RDF_VALIDATE_FORMAT"
  | .checks => "RDF_VALIDATE_CHECKS"

def ofName? (name : String) : Option ValueOption := all.find? (fun option => option.name = name)

/-- The option goes on taking values until another argument stops it. -/
def takesMany : ValueOption → Bool
  | .schema => true
  | .data => true
  | _ => false

/-- The values of the option are lists with commas, and it can be given more than once. -/
def isList : ValueOption → Bool
  | .schema => true
  | .data => true
  | .checks => true
  | _ => false

end ValueOption

inductive Flag
  | noParallel
  | datatypesDisjoint
  | noFail
  deriving DecidableEq, Inhabited

namespace Flag

def all : List Flag := [.noParallel, .datatypesDisjoint, .noFail]

def name : Flag → String
  | .noParallel => "no-parallel"
  | .datatypesDisjoint => "implicit-datatype-disjointness"
  | .noFail => "no-fail"

def environmentName : Flag → String
  | .noParallel => "RDF_VALIDATE_NO_PARALLEL"
  | .datatypesDisjoint => "RDF_VALIDATE_IMPLICIT_DATATYPE_DISJOINTNESS"
  | .noFail => "RDF_VALIDATE_NO_FAIL"

def ofName? (name : String) : Option Flag := all.find? (fun flag => flag.name = name)

end Flag

/-- The values that were given; what was not given is none. -/
structure Arguments where
  config : Option String := none
  schema : Option (List String) := none
  data : Option (List String) := none
  inputFormat : Option GraphFormat := none
  format : Option ReportFormat := none
  checks : Option (List Check) := none
  noParallel : Option Bool := none
  datatypesDisjoint : Option Bool := none
  noFail : Option Bool := none
  deriving DecidableEq, Inhabited

namespace Arguments

def hasValue (arguments : Arguments) : ValueOption → Bool
  | .config => arguments.config.isSome
  | .schema => arguments.schema.isSome
  | .data => arguments.data.isSome
  | .inputFormat => arguments.inputFormat.isSome
  | .format => arguments.format.isSome
  | .checks => arguments.checks.isSome

def hasFlag (arguments : Arguments) : Flag → Bool
  | .noParallel => arguments.noParallel.isSome
  | .datatypesDisjoint => arguments.datatypesDisjoint.isSome
  | .noFail => arguments.noFail.isSome

def setFlag (arguments : Arguments) (value : Bool) : Flag → Arguments
  | .noParallel => { arguments with noParallel := some value }
  | .datatypesDisjoint => { arguments with datatypesDisjoint := some value }
  | .noFail => { arguments with noFail := some value }

def path? (text : String) : Option String := if text.isEmpty then none else some text

def append {α : Type} (given : Option (List α)) (more : List α) : Option (List α) :=
  some (given.getD [] ++ more)

/-- Adds the texts of an option, or refuses them. An option that is no list takes one text. -/
def addValues? (arguments : Arguments) (option : ValueOption) (texts : List String) :
    Option Arguments :=
  match option, texts with
  | .schema, texts => do
      return { arguments with schema := append arguments.schema (← texts.mapM path?) }
  | .data, texts => do
      return { arguments with data := append arguments.data (← texts.mapM path?) }
  | .checks, texts => do
      return { arguments with checks := append arguments.checks (← texts.mapM Check.ofName?) }
  | .config, [text] => do return { arguments with config := some (← path? text) }
  | .inputFormat, [text] => do
      return { arguments with inputFormat := some (← GraphFormat.ofName? text) }
  | .format, [text] => do return { arguments with format := some (← ReportFormat.ofName? text) }
  | _, _ => none

end Arguments

end OntologyLint
