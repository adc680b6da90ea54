import EventDetection.Cli.Run

/-!
# The command line

Reads the files and variables that a command needs, runs it and writes what it
reports.  No way to send a request is built in, so that no server can be reached.
-/

namespace EventDetection.Cli

/-- The variables that configure a command. -/
def variableNames : List String := [
  "PLATFORM_API_URL", "PLATFORM_ACCESS_TOKEN", "TELEMETRY_API_URL", "TELEMETRY_API_KEY",
  "TELEMETRY_PROJECT_ID", "ROLLBACK_ON_PERSIST_FAILURE", "ORG_PLAN"]

/-- The variables that are set. -/
def readEnvironment : IO Environment := do
  let values ← variableNames.mapM fun name => do
    return (← IO.getEnv name).map fun value => (name, value)
  return Dict.ofList (values.filterMap id)

/-- Whether a code is that of a fault, which may be given with its sign changed. -/
def isCode (fault code : UInt32) : Bool := code = fault || code + fault = 0

/-- The text of a file. -/
def readFile (path : String) : IO (Except FileError String) := do
  try
    let bytes ← IO.FS.readBinFile path
    return (String.fromUTF8? bytes).elim (.error .notText) .ok
  catch
    | .noFileOrDirectory .. => return .error .notFound
    | .inappropriateType _ code _ =>
      return .error (if isCode 20 code then .notDirectory else .isDirectory)
    | .invalidArgument _ code details =>
      return .error (if isCode 36 code then .nameTooLong else .other details)
    | e => return .error (.other (toString e))

/-- The files that a command line reads. -/
def readFiles (args : List String) : IO Files := do
  let paths := envFile :: ((Command.parse args).bind Command.file?).toList
  let read ← paths.mapM fun path => do return (path, ← readFile path)
  return fun path => (read.lookup path).getD (.error .notFound)

end EventDetection.Cli

open EventDetection.Cli in
def main (args : List String) : IO UInt32 := do
  let world : World := {
    files := ← readFiles args
    environment := ← readEnvironment
    network := .down }
  let report := (run world args []).value.1
  (← IO.getStderr).putStr report.err
  (← IO.getStdout).putStr report.out
  return report.exitCode
