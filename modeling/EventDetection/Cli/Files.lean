import EventDetection.Dict
import EventDetection.Text.Pieces

/-!
# Files

* `Directory.read`: a directory that holds files and nothing else, read by a path.
-/

namespace EventDetection.Cli

/-- Why a file cannot be read. -/
inductive FileError where
  | notFound
  | notDirectory
  | isDirectory
  | nameTooLong
  | notText
  | other (reason : String)
deriving DecidableEq

def FileError.message : FileError → String
  | .notFound => "No such file or directory (os error 2)"
  | .notDirectory => "Not a directory (os error 20)"
  | .isDirectory => "Is a directory (os error 21)"
  | .nameTooLong => "File name too long (os error 36)"
  | .notText => "stream did not contain valid UTF-8"
  | .other reason => reason

/-- The text of the file at a path. -/
abbrev Files := String → Except FileError String

/-- The name of the file that sets variables. -/
def envFile : String := ".env"

/-- The files of a directory by name. -/
abbrev Directory := Dict String

namespace Directory

/-- The greatest length of the name of a file, in bytes. -/
def maxNameLength : Nat := 255

/-- The greatest length of a path, in bytes. -/
def maxPathLength : Nat := 4095

/-- Where the steps of a path have led. -/
inductive Place where
  /-- the directory itself -/
  | here
  /-- a directory that holds it, of which nothing else is known -/
  | above
  | file (text : String)

/-- Takes a step of a path. -/
def step (d : Directory) (place : Place) (name : String) : Except FileError Place :=
  match place with
  | .file _ => .error .notDirectory
  | .here | .above =>
    if name = "" ∨ name = "." then .ok place
    else if name = ".." then .ok .above
    else if maxNameLength < name.utf8ByteSize then .error .nameTooLong
    else
      match place, d.get? name with
      | .here, some text => .ok (.file text)
      | _, _ => .error .notFound

/-- Reads a file by a path that starts in the directory, or at the root if it starts with a
slash.  Every name but the last one has to be that of a directory. -/
def read (d : Directory) : Files := fun path => do
  if path = "" then .error .notFound
  else if maxPathLength < path.utf8ByteSize then .error .nameTooLong
  else
    let steps := (Text.pieces '/' path.toList).map String.ofList
    let start : Place := if steps.head? = some "" then .above else .here
    match ← steps.foldlM d.step start with
    | .file text => .ok text
    | .here | .above => .error .isDirectory

end Directory

end EventDetection.Cli
