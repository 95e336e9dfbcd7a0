import OntologyLint.Document.Loading
import OntologyLint.Settings.Basic
import OntologyLint.Settings.CommandLine
import OntologyLint.Text.Blank

set_option autoImplicit false

/-! A run of the program: it settles its settings, loads both graphs, validates and reports. -/

namespace OntologyLint

inductive Role
  | schema
  | data
  deriving DecidableEq, Inhabited

def Role.name : Role → String
  | .schema => "schema"
  | .data => "data"

inductive RunError
  | commandLine (error : CommandLineError)
  | settings (error : SettingsError)
  | loading (role : Role) (error : LoadError)
  deriving DecidableEq, Inhabited

namespace RunError

def exitStatus : RunError → Nat
  | .commandLine error => error.exitStatus
  | _ => 2

def loadingMessage (role : Role) : String := "failed to load " ++ role.name ++ " graph"

def message : RunError → String
  | .commandLine error => error.message
  | .settings error => error.message
  | .loading role error => loadingMessage role ++ ": " ++ error.message

end RunError

inductive Outcome
  | clean
  | violations
  deriving DecidableEq, Inhabited

def Outcome.exitStatus : Outcome → Nat
  | .clean => 0
  | .violations => 1

namespace Settings

/-- Violations count only if the settings say that they do. -/
def outcome (settings : Settings) (report : Report) : Outcome :=
  if report.isValid || !settings.failOnViolations then .clean else .violations

/-- The report as it is printed: in the format of the settings, with one line end. -/
def printed (settings : Settings) (report : Report) : String :=
  String.ofList (Text.trimEnd (settings.output.render report).toList) ++ "\n"

def load (settings : Settings) (loader : Loader) (role : Role) (first : Nat) (paths : List String) :
    Except RunError Graph :=
  match loader.graph settings.inputFormat first paths with
  | .ok graph => .ok graph
  | .error error => .error (.loading role error)

def report (settings : Settings) (loader : Loader) : Except RunError Report := do
  let schema ← settings.load loader .schema 0 settings.schema
  let data ← settings.load loader .data settings.schema.length settings.data
  pure (settings.options.run data schema)

end Settings

namespace Program

def settings (environment : String → Option String) (disk : Disk) (commandLine : List String) :
    Except RunError Settings :=
  match CommandLine.read environment commandLine with
  | .error error => .error (.commandLine error)
  | .ok arguments =>
      match Settings.ofArguments disk ConfigNotation.read? arguments with
      | .error error => .error (.settings error)
      | .ok settings => .ok settings

def run (environment : String → Option String) (disk : Disk) (commandLine : List String) :
    Except RunError (Settings × Report) := do
  let settings ← settings environment disk commandLine
  let report ← settings.report (Loader.ofDisk disk)
  pure (settings, report)

end Program

end OntologyLint
