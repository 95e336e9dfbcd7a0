import OntologyLint.Settings.Arguments
import OntologyLint.Settings.ConfigFile
import OntologyLint.Validation.Run

set_option autoImplicit false

/-! The settings of a run. What the command line says goes before what a configuration file says,
and what neither says has a default. -/

namespace OntologyLint

structure Settings where
  schema : List String
  data : List String
  inputFormat : Option GraphFormat := none
  output : ReportFormat := .text
  checks : SortedSet Check
  parallel : Bool := true
  datatypesDisjoint : Bool := false
  failOnViolations : Bool := true

namespace Settings

def nonEmpty {α : Type} (given : Option (List α)) : Option (List α) :=
  given.filter (fun items => !items.isEmpty)

def baseOf (config : Option String) : String := (config.map Path.parent).getD ""

/-- The paths of one sort: those of the command line, or those of the file as seen from it. -/
def pathsOf (config : Option String) (given inFile : Option (List String)) : List String :=
  ((nonEmpty given).or (inFile.map (fun paths => paths.map (Path.join (baseOf config))))).getD []

def unlessOff (off : Option Bool) (inFile : Option Bool) : Bool :=
  if off.getD false then false else inFile.getD true

def checksOf (given inFile : Option (List Check)) : SortedSet Check :=
  SortedSet.ofList (((nonEmpty given).or inFile).getD Check.all)

/-- Settles every setting from the arguments and the file. Inputs of both sorts and at least one
check are needed. -/
def merge (arguments : Arguments) (file : PartialSettings) : Except SettingsError Settings :=
  let schema := pathsOf arguments.config arguments.schema file.schema
  let data := pathsOf arguments.config arguments.data file.data
  let checks := checksOf arguments.checks file.checks
  if schema.isEmpty then .error .noSchema
  else if data.isEmpty then .error .noData
  else if checks.isEmpty then .error .noChecks
  else
    .ok {
      schema
      data
      inputFormat := arguments.inputFormat.or file.inputFormat
      output := (arguments.format.or file.format).getD .text
      checks
      parallel := unlessOff arguments.noParallel file.parallel
      datatypesDisjoint :=
        arguments.datatypesDisjoint.getD false || file.datatypesDisjoint.getD false
      failOnViolations := unlessOff arguments.noFail file.failOnViolations }

def ofArguments (disk : Disk) (read? : ConfigNotation → String → Option PartialSettings)
    (arguments : Arguments) : Except SettingsError Settings := do
  let file ← match arguments.config with
    | none => pure {}
    | some path => PartialSettings.load disk read? path
  merge arguments file

def options (settings : Settings) : Options :=
  ⟨settings.checks, settings.parallel, settings.datatypesDisjoint⟩

end Settings

end OntologyLint
