import EventDetection.Cli.Files
import EventDetection.Config.Basic
import EventDetection.Json.Error
import EventDetection.Json.Printer
import EventDetection.SetupError

/-!
# What a command reports

A command ends with an exit code, and writes to the standard output and the standard
error output.
-/

namespace EventDetection.Cli

/-- Why a command fails. -/
inductive Failure where
  | config (e : ConfigError)
  /-- a service is not available or refuses a call -/
  | service (reason : String)
  | setup (e : SetupError)
  | noEvent (name project : String)
  | noFile (path : String) (e : FileError)
  | notFormValues (e : Json.ReadError)
  | invalid (violations : List Violation)
deriving DecidableEq

namespace Failure

def message : Failure → String
  | .config e => e.message
  | .service reason => reason
  | .setup e => e.message
  | .noEvent name project => "No event named " ++ name ++ " in project " ++ project
  | .noFile path _ => "Cannot read form values from " ++ path
  | .notFormValues e => e.message
  | .invalid vs => toString vs.length ++ " validation error(s)"

/-- What lies behind a failure. -/
def cause? : Failure → Option String
  | .noFile _ e => some e.message
  | _ => none

/-- What is told before the failure. -/
def details : Failure → List String
  | .invalid vs => vs.map Violation.text
  | _ => []

def text (f : Failure) : String :=
  "Error: " ++ f.message ++ "\n" ++
    match f.cause? with
    | some cause => "\nCaused by:\n    " ++ cause ++ "\n"
    | none => ""

end Failure

structure Report where
  exitCode : UInt32 := 0
  out : String := ""
  err : String := ""
deriving DecidableEq

namespace Report

def lines (ss : List String) : String := String.join (ss.map (· ++ "\n"))

/-- Prints a value over several lines. -/
def json (v : Json.Value) : Report := { out := v.pretty ++ "\n" }

/-- A command that fails. -/
def failure (f : Failure) : Report :=
  { exitCode := 1, err := lines f.details ++ f.text }

/-- Arguments that make no command; what could be given is told. -/
def badArguments (usage : List String) : Report := { exitCode := 2, err := lines usage }

/-- The report with lines in front of its error output. -/
def withNotes (r : Report) (notes : List String) : Report := { r with err := lines notes ++ r.err }

end Report

end EventDetection.Cli
