import OntologyLint.Check.Basic
import OntologyLint.Document.Format
import OntologyLint.Files.Disk
import OntologyLint.Json.Parser
import OntologyLint.Text.Quoted
import OntologyLint.Validation.ReportFormat
import OntologyLint.Yaml.Document

set_option autoImplicit false

/-! Configuration files. A file sets some of the settings and leaves others open; it is written in
JSON or in YAML, and nothing in it may be unknown, given twice or of the wrong sort. -/

namespace OntologyLint

structure PartialSettings where
  schema : Option (List String) := none
  data : Option (List String) := none
  inputFormat : Option GraphFormat := none
  format : Option ReportFormat := none
  checks : Option (List Check) := none
  parallel : Option Bool := none
  datatypesDisjoint : Option Bool := none
  failOnViolations : Option Bool := none
  deriving DecidableEq, Inhabited

/-- How values of a notation are taken. Of some it cannot be said whether they are missing. -/
structure ValueReader (V : Type) where
  isMissing? : V → Option Bool
  text? : V → Option String
  name? : V → Option String
  flag? : V → Option Bool
  items? : V → Option (List V)

namespace ValueReader

variable {V α : Type}

def optional (reader : ValueReader V) (read? : V → Option α) (value : V) : Option (Option α) := do
  if ← reader.isMissing? value then return none else return some (← read? value)

def list? (reader : ValueReader V) (read? : V → Option α) (value : V) : Option (List α) := do
  (← reader.items? value).mapM read?

def named? (reader : ValueReader V) (ofName? : String → Option α) (value : V) : Option α := do
  ofName? (← reader.name? value)

end ValueReader

namespace PartialSettings

def names : List String :=
  ["schema", "data", "input_format", "format", "checks", "parallel",
    "implicit_datatype_disjointness", "fail_on_violations"]

variable {V : Type}

def addField? (reader : ValueReader V) (settings : PartialSettings) (field : String × V) :
    Option PartialSettings :=
  match field with
  | ("schema", value) => do
      return { settings with schema := ← reader.optional (reader.list? reader.text?) value }
  | ("data", value) => do
      return { settings with data := ← reader.optional (reader.list? reader.text?) value }
  | ("input_format", value) => do
      return { settings with
        inputFormat := ← reader.optional (reader.named? GraphFormat.ofName?) value }
  | ("format", value) => do
      return { settings with
        format := ← reader.optional (reader.named? ReportFormat.ofName?) value }
  | ("checks", value) => do
      return { settings with
        checks := ← reader.optional (reader.list? (reader.named? Check.ofName?)) value }
  | ("parallel", value) => do
      return { settings with parallel := ← reader.optional reader.flag? value }
  | ("implicit_datatype_disjointness", value) => do
      return { settings with datatypesDisjoint := ← reader.optional reader.flag? value }
  | ("fail_on_violations", value) => do
      return { settings with failOnViolations := ← reader.optional reader.flag? value }
  | _ => none

def ofFields? (reader : ValueReader V) (fields : List (String × V)) : Option PartialSettings :=
  if (fields.map Prod.fst).Nodup then fields.foldlM (addField? reader) {} else none

/-- JSON writes names as texts, or as objects with that one field and nothing in it. -/
def jsonReader : ValueReader Json where
  isMissing?
    | .null => some true
    | _ => some false
  text?
    | .string text => some text
    | _ => none
  name?
    | .string text => some text
    | .object [(text, .null)] => some text
    | _ => none
  flag?
    | .boolean value => some value
    | _ => none
  items?
    | .list items => some items
    | _ => none

/-- In YAML an alias can stand for every value of a document. -/
def yamlReader (document : Yaml) : ValueReader Yaml where
  isMissing? value := (document.follow value).isMissing?
  text? value := (document.follow value).text?
  name? value := (document.follow value).name?
  flag? value := (document.follow value).flag?
  items? value := (document.follow value).items?

/-- The settings of a JSON text: an object, or a list of all settings in order. -/
def ofJson? (text : String) : Option PartialSettings :=
  match Json.parse? text with
  | some (.object fields) => ofFields? jsonReader fields
  | some (.list items) =>
      if items.length = names.length then ofFields? jsonReader (names.zip items) else none
  | _ => none

def ofYaml? (text : String) : Option PartialSettings := do
  match ← Yaml.parse? text with
  | none => some {}
  | some document =>
      let fields ← (← document.fields?).mapM (fun (key, value) => do
        return (← (document.follow key).text?, value))
      ofFields? (yamlReader document) fields

end PartialSettings

inductive ConfigNotation
  | yaml
  | json
  deriving DecidableEq, Inhabited

namespace ConfigNotation

def ofExtension? (ending : String) : Option ConfigNotation :=
  if ending = "yaml" ∨ ending = "yml" then some .yaml
  else if ending = "json" then some .json
  else none

def label : ConfigNotation → String
  | .yaml => "YAML"
  | .json => "JSON"

def read? : ConfigNotation → String → Option PartialSettings
  | .yaml => PartialSettings.ofYaml?
  | .json => PartialSettings.ofJson?

end ConfigNotation

inductive SettingsError
  | missingFile (path : String)
  | unreadableFile (path : String)
  | malformedFile (written : ConfigNotation) (path : String)
  | unsupportedExtension (ending : String)
  | noSchema
  | noData
  | noChecks
  deriving DecidableEq, Inhabited

namespace SettingsError

def message : SettingsError → String
  | .missingFile path => "config file " ++ Text.quoted path ++ " does not exist"
  | .unreadableFile path => "failed to read config file " ++ Text.quoted path
  | .malformedFile written path =>
      "failed to parse " ++ written.label ++ " config " ++ Text.quoted path
  | .unsupportedExtension ending => "unsupported config extension: " ++ ending
  | .noSchema => "at least one schema file must be provided"
  | .noData => "at least one data file must be provided"
  | .noChecks => "at least one check must be enabled"

end SettingsError

namespace PartialSettings

def load (disk : Disk) (read? : ConfigNotation → String → Option PartialSettings) (path : String) :
    Except SettingsError PartialSettings :=
  if !disk.hasEntry path then .error (.missingFile path)
  else
    match disk.read? path with
    | none => .error (.unreadableFile path)
    | some text =>
        let ending := ((Path.extension? path).getD "").toLower
        match ConfigNotation.ofExtension? ending with
        | none => .error (.unsupportedExtension ending)
        | some written =>
            match read? written text with
            | none => .error (.malformedFile written path)
            | some settings => .ok settings

end PartialSettings

end OntologyLint
