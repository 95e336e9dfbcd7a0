import OntologyLint.Program.Run

set_option autoImplicit false

/-! The program on a real disk. Every file that a run needs is opened before the run, so that the
run itself is a function of what was opened. -/

namespace OntologyLint.Program

/-- What a path leads to on the real disk. A file without text counts as a directory. -/
def openPath (path : String) : IO (Except OpenFailure Opened) := do
  try
    return .ok (.file (← IO.FS.readFile path))
  catch
    | .noFileOrDirectory .. => return .error .notFound
    | .invalidArgument .. => return .error .invalidInput
    | _ => return .ok .directory

def openDisk (paths : List String) : IO Disk := do
  let entries ← paths.mapM (fun path => do return (path, ← openPath path))
  return fun path =>
    ((entries.find? (fun entry => entry.1 = path)).map Prod.snd).getD (.error .notFound)

def readEnvironment : IO (String → Option String) := do
  let names := ValueOption.all.map ValueOption.environmentName ++ Flag.all.map Flag.environmentName
  let entries ← names.mapM (fun name => do return (name, ← IO.getEnv name))
  return fun name => (entries.find? (fun entry => entry.1 = name)).bind Prod.snd

def printError (error : RunError) : IO UInt32 := do
  if error.exitStatus = 0 then IO.println error.message
  else IO.eprintln ("error: " ++ error.message)
  return error.exitStatus.toUInt32

def printReport (settings : Settings) (report : Report) : IO UInt32 := do
  IO.print (settings.printed report)
  return (settings.outcome report).exitStatus.toUInt32

end OntologyLint.Program

open OntologyLint

def main (commandLine : List String) : IO UInt32 := do
  let environment ← Program.readEnvironment
  let config := (CommandLine.read environment commandLine).toOption.bind Arguments.config
  match Program.settings environment (← Program.openDisk config.toList) commandLine with
  | .error error => Program.printError error
  | .ok settings =>
      let started ← IO.monoMsNow
      let disk ← Program.openDisk (settings.schema ++ settings.data)
      match settings.report (Loader.ofDisk disk) with
      | .error error => Program.printError error
      | .ok report =>
          let elapsed := (← IO.monoMsNow) - started
          Program.printReport settings
            { report with stats := { report.stats with durationMs := elapsed } }
