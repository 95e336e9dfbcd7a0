import OntologyLint.Settings.Arguments
import OntologyLint.Text.Fields

set_option autoImplicit false

/-! Reading a command line. The values of an option are collected until something else is asked for,
and only then looked into; so what stands after them can win over a fault among them. Environment
variables stand in for options that the command line does not give. -/

namespace OntologyLint

/-- Why a command line gives no arguments. Help and the version are asked for. -/
inductive CommandLineError
  | displayHelp
  | displayVersion
  | unknownArgument
  | invalidValue
  | argumentConflict
  | tooManyValues
  deriving DecidableEq, Inhabited

def CommandLineError.exitStatus : CommandLineError → Nat
  | .displayHelp => 0
  | .displayVersion => 0
  | _ => 2

def CommandLineError.message : CommandLineError → String
  | .displayHelp =>
      "usage: rdf-validate --schema FILE... --data FILE... [--config FILE] " ++
        "[--input-format SYNTAX] [--format FORMAT] [--checks CHECK,...] [--no-parallel] " ++
        "[--implicit-datatype-disjointness] [--no-fail]"
  | .displayVersion => "rdf-validate " ++ programVersion
  | .unknownArgument => "unexpected argument"
  | .invalidValue => "missing or invalid value of an option"
  | .argumentConflict => "an option is given more than once"
  | .tooManyValues => "a flag takes no value"

namespace CommandLine

inductive Form
  | escape
  | long (name : String) (value : Option String)
  | short (letters : List Char)
  | plain (text : String)

def form (argument : String) : Form :=
  match argument.toList with
  | ['-', '-'] => .escape
  | '-' :: '-' :: rest =>
      let (name, value) := rest.span (· != '=')
      .long (String.ofList name)
        (match value with
          | [] => none
          | _ :: value => some (String.ofList value))
  | '-' :: letter :: rest => .short (letter :: rest)
  | _ => .plain argument

/-- What has been read: the arguments so far, the option whose values are collected, and whether it
takes more of them. -/
structure Progress where
  arguments : Arguments := {}
  pending : Option (ValueOption × List String) := none
  takesMore : Bool := false

def parts (option : ValueOption) (texts : List String) : List String :=
  if option.isList then
    texts.flatMap (fun text => (Text.fields ',' text.toList).map String.ofList)
  else texts

def settle (arguments : Arguments) (option : ValueOption) (texts : List String) :
    Except CommandLineError Arguments :=
  if texts.isEmpty then .error .invalidValue
  else if arguments.hasValue option && !option.isList then .error .argumentConflict
  else
    match arguments.addValues? option (parts option texts) with
    | some arguments => .ok arguments
    | none => .error .invalidValue

namespace Progress

def resolve (progress : Progress) : Except CommandLineError Arguments :=
  match progress.pending with
  | none => .ok progress.arguments
  | some (option, texts) => settle progress.arguments option texts

def giveFlag (progress : Progress) (flag : Flag) : Except CommandLineError Progress := do
  let arguments ← progress.resolve
  if arguments.hasFlag flag then .error .argumentConflict
  else .ok { arguments := arguments.setFlag true flag }

def giveOption (progress : Progress) (option : ValueOption) (value : Option String) :
    Except CommandLineError Progress := do
  let arguments ← progress.resolve
  match value with
  | some value => do
      let arguments ← settle arguments option [value]
      .ok { arguments }
  | none => .ok { arguments, pending := some (option, []), takesMore := true }

def ask {α : Type} (progress : Progress) (error : CommandLineError) :
    Except CommandLineError α := do
  let _ ← progress.resolve
  .error error

def givePlain (progress : Progress) (text : String) : Except CommandLineError Progress :=
  match progress.pending, progress.takesMore with
  | some (option, texts), true =>
      .ok { progress with
        pending := some (option, texts ++ [text])
        takesMore := option.takesMany }
  | _, _ => .error .unknownArgument

def giveLong (progress : Progress) (name : String) (value : Option String) :
    Except CommandLineError Progress :=
  match ValueOption.ofName? name with
  | some option => progress.giveOption option value
  | none =>
      let known := name == "help" || name == "version" || (Flag.ofName? name).isSome
      if known && value.isSome then .error .tooManyValues
      else if name = "help" then progress.ask .displayHelp
      else if name = "version" then progress.ask .displayVersion
      else
        match Flag.ofName? name with
        | some flag => progress.giveFlag flag
        | none => .error .unknownArgument

def giveShort (progress : Progress) : List Char → Except CommandLineError Progress
  | 'h' :: _ => progress.ask .displayHelp
  | 'V' :: _ => progress.ask .displayVersion
  | _ => .error .unknownArgument

end Progress

/-- Reads arguments in order. After two hyphens alone nothing more is taken. -/
def readFrom (progress : Progress) : List String → Except CommandLineError Arguments
  | [] => progress.resolve
  | argument :: rest =>
      match form argument with
      | .escape => if rest.isEmpty then progress.resolve else .error .unknownArgument
      | .long name value => do readFrom (← progress.giveLong name value) rest
      | .short letters => do readFrom (← progress.giveShort letters) rest
      | .plain text => do readFrom (← progress.givePlain text) rest

def completeOption (environment : String → Option String) (arguments : Arguments)
    (option : ValueOption) : Except CommandLineError Arguments :=
  if arguments.hasValue option then .ok arguments
  else
    match environment option.environmentName with
    | none => .ok arguments
    | some value => settle arguments option [value]

/-- Lets the environment stand in for a flag. Only the two truth values are understood. -/
def completeFlag (environment : String → Option String) (arguments : Arguments) (flag : Flag) :
    Except CommandLineError Arguments :=
  if arguments.hasFlag flag then .ok arguments
  else
    match environment flag.environmentName with
    | none => .ok arguments
    | some "true" => .ok (arguments.setFlag true flag)
    | some "false" => .ok (arguments.setFlag false flag)
    | some _ => .error .invalidValue

def read (environment : String → Option String) (commandLine : List String) :
    Except CommandLineError Arguments := do
  let given ← readFrom {} commandLine
  let completed ← ValueOption.all.foldlM (completeOption environment) given
  Flag.all.foldlM (completeFlag environment) completed

end CommandLine

end OntologyLint
