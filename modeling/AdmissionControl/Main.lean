/-
  The command line.

  `evaluate REVIEW [--users FILE] [--settings FILE] [--deny-authorization] [--debug]` evaluates
  the review of a file and exits with its status.  `serve` loads the configuration and shows what
  the service starts with.
-/

import AdmissionControl.Config.Sources
import AdmissionControl.Offline
import AdmissionControl.Service.Startup

namespace AdmissionControl

inductive Command where
  | serve
  | evaluate (review : String) (users settings : Option String) (authorized : Bool)

namespace Command

/-- The command of an evaluation whose parts are read one after the other from the arguments. -/
def withOptions (review users settings : Option String) (authorized : Bool) :
    List String → Option Command
  | [] => review.map fun path => .evaluate path users settings authorized
  | "--users" :: path :: rest => withOptions review (some path) settings authorized rest
  | "--settings" :: path :: rest => withOptions review users (some path) authorized rest
  | "--deny-authorization" :: rest => withOptions review users settings false rest
  | "--no-deny-authorization" :: rest => withOptions review users settings true rest
  | "--debug" :: rest => withOptions review users settings authorized rest
  | "--no-debug" :: rest => withOptions review users settings authorized rest
  | path :: rest =>
    if review.isSome || path.startsWith "-" then none
    else withOptions (some path) users settings authorized rest

def ofArguments? : List String → Option Command
  | ["serve"] => some .serve
  | "evaluate" :: rest => withOptions none none none true rest
  | _ => none

end Command

/-! ## Files and the environment -/

/-- The text of a file, none where it cannot be read. -/
def readIfThere (path : String) : IO (Option String) := do
  try return some (← IO.FS.readFile path)
  catch _ => return none

/-- The names of the variables of all fields, in capitals. -/
def variableNames : List String :=
  (ServiceConfig.fields {}).filterMap fun field =>
    (ConfigSources.variableName field.1).string?.map fun name =>
      String.ofList (name.toList.map Char.toUpper)

/-- The sources of the configuration: the environment and the file of variables. -/
def readSources : IO ConfigSources := do
  let environment ← variableNames.filterMapM fun name => do
    return (← IO.getEnv name).map fun value => ((name : Text), value)
  return { environment, file := ← readIfThere ".env" }

def fileEntry? (path : String) : IO (Option FileEntry) := do
  match ← readIfThere path with
  | some content => return some (.file content)
  | none =>
    try
      let _ ← IO.FS.Handle.mk path .read
      return some .directory
    catch _ => return none

/-- What stands under the paths among the fields of a configuration. -/
def readFiles (sources : ConfigSources) : IO Files := do
  let paths := (ServiceConfig.fields {}).filterMap fun field =>
    match (sources.value? field.1).getD field.2 with
    | .str text => (Config.normalizePath text).string?
    | _ => none
  let entries ← paths.filterMapM fun path => do
    return (← fileEntry? path).map fun entry => ((path : Text), entry)
  return fun path => entries.lookup path

/-! ## Commands -/

/-- The depth to which JSON may be nested when nothing else bounds it: a thousand calls, less those
under way when the reading begins. -/
def usualDepth : Nat := 960

def writeLog (log : List LogRecord) : IO Unit := do
  let err ← IO.getStderr
  for record in log do
    err.putStrLn (record.level.name ++ " " ++ record.message.display)

/-- Loads the configuration and shows what the service starts with. -/
def runServe : IO UInt32 := do
  let sources ← readSources
  let files ← readFiles sources
  match ServiceConfig.load files.exist sources with
  | .error report =>
    IO.eprintln report.message
    return 1
  | .ok config => match config.start usualDepth files with
    | .error _ =>
      IO.eprintln "the service does not start"
      return 1
    | .ok (options, log) =>
      writeLog log
      IO.println (options.toJson.text .compact)
      return 0

def readText (path : String) : IO Text := do return .ofString (← IO.FS.readFile path)

/-- Evaluates the review of a file. -/
def runEvaluate (reviewPath : String) (users settings : Option String) (authorized : Bool) :
    IO UInt32 := do
  let input : OfflineInput := {
    depth := usualDepth
    reviewText := ← readText reviewPath
    users := ← users.mapM readText
    settings := ← settings.mapM readText
    authorized }
  let result := input.evaluate
  if let .ok { printed, .. } := result then IO.print printed
  return (OfflineResult.programStatus result).toUInt32

end AdmissionControl

def main (arguments : List String) : IO UInt32 :=
  match AdmissionControl.Command.ofArguments? arguments with
  | some .serve => AdmissionControl.runServe
  | some (.evaluate review users settings authorized) =>
    AdmissionControl.runEvaluate review users settings authorized
  | none => do
    IO.eprintln "usage: serve | evaluate REVIEW [--users FILE] [--settings FILE]"
    return 2
