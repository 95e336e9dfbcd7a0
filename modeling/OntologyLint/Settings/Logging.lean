import OntologyLint.Settings.Arguments

set_option autoImplicit false

/-! Where log lines go and how they look, settled by the environment. -/

namespace OntologyLint

inductive LogFormat
  | json
  | pretty
  deriving DecidableEq, Inhabited

inductive LogOutput
  | stdout
  | stderr
  | file
  deriving DecidableEq, Inhabited

structure LogSettings where
  format : LogFormat
  output : LogOutput := .stderr
  directory : String := "logs"
  filePrefix : String := "rdf-validate"
  serviceName : String := "rdf-validate"
  serviceVersion : String := programVersion
  environment : String
  rotates : Bool := true
  deriving DecidableEq, Inhabited

namespace LogFormat

def name : LogFormat → String
  | .json => "json"
  | .pretty => "pretty"

def ofName? (name : String) : Option LogFormat :=
  [json, pretty].find? (fun format => format.name = name)

end LogFormat

namespace LogOutput

def name : LogOutput → String
  | .stdout => "stdout"
  | .stderr => "stderr"
  | .file => "file"

def ofName? (name : String) : Option LogOutput :=
  [stdout, stderr, file].find? (fun output => output.name = name)

end LogOutput

namespace LogSettings

def isProduction (environment : String) : Bool :=
  environment == "production" || environment == "prod"

def environmentName (environment : String → Option String) : String :=
  ((environment "ENVIRONMENT").or (environment "ENV")).getD "development"

def offWords : List String := ["0", "false", "never"]

/-- The settings of an environment. Words without meaning leave the defaults. Lowering the letters
of ASCII is enough, since no other letter has a letter of these words as its lower case. -/
def ofEnvironment (environment : String → Option String) : LogSettings :=
  let name := environmentName environment
  { environment := name
    format :=
      ((environment "LOG_FORMAT").bind (fun word => LogFormat.ofName? word.toLower)).getD
        (if isProduction name then .json else .pretty)
    output :=
      ((environment "LOG_OUTPUT").bind (fun word => LogOutput.ofName? word.toLower)).getD .stderr
    directory := (environment "LOG_DIR").getD "logs"
    rotates :=
      ((environment "LOG_ROTATION").map (fun word => !offWords.contains word.toLower)).getD true }

end LogSettings

end OntologyLint
