/-!
# Command line arguments

An option is two dashes and a name.  Its value is the next argument, or stands behind
an equals sign; the next argument must not look like an option.  Behind `--` all
arguments are files.
-/

namespace EventDetection.Cli

/-- What may be said of an option. -/
inductive OptionKind where
  /-- it has no value and is given once -/
  | flag
  /-- it has a value and is given once -/
  | single
  /-- it has a value each time that it is given -/
  | repeated
deriving DecidableEq

/-- The options of a command, and the number of files that it takes. -/
structure Grammar where
  options : List (String × OptionKind)
  files : Nat := 0

/-- The options that were given with their values, the first one first, and the files. -/
structure Given where
  options : List (String × String) := []
  files : List String := []
deriving DecidableEq

namespace Given

/-- The values of an option. -/
def values (g : Given) (name : String) : List String :=
  (g.options.filter (·.1 = name)).map (·.2)

def value? (g : Given) (name : String) : Option String := (g.values name).head?

def has (g : Given) (name : String) : Bool := !(g.values name).isEmpty

end Given

/-- Whether an argument looks like an option. -/
def looksLikeOption (arg : String) : Bool := arg.startsWith "-" && arg ≠ "-"

/-- The name of a long option, and the value behind an equals sign. -/
def longOption? (arg : String) : Option (String × Option String) :=
  match arg.toList with
  | '-' :: '-' :: cs =>
    match cs.dropWhile (· ≠ '=') with
    | [] => some (String.ofList cs, none)
    | _ :: value => some (String.ofList (cs.takeWhile (· ≠ '=')), some (String.ofList value))
  | _ => none

namespace Grammar

/-- Takes an option, which must be known and must not have been given too often. -/
def takeOption (g : Grammar) (given : Given) (name value : String) : Option Given :=
  match g.options.lookup name with
  | none => none
  | some kind =>
    if kind ≠ .repeated && given.has name then none
    else some { given with options := given.options ++ [(name, value)] }

/-- Takes a file, which must have a name and must not be one too many. -/
def takeFile (g : Grammar) (given : Given) (path : String) : Option Given :=
  if path = "" ∨ g.files ≤ given.files.length then none
  else some { given with files := given.files ++ [path] }

/-- Reads arguments one after the other; an option may wait for its value. -/
def scanFrom (g : Grammar) : (waiting : Option String) → Given → List String → Option Given
  | none, given, [] => some given
  | some _, _, [] => none
  | some name, given, arg :: args =>
    if looksLikeOption arg then none
    else (g.takeOption given name arg).bind fun given => g.scanFrom none given args
  | none, given, arg :: args =>
    if arg = "--" then args.foldlM g.takeFile given
    else
      match longOption? arg with
      | none =>
        if looksLikeOption arg then none
        else (g.takeFile given arg).bind fun given => g.scanFrom none given args
      | some (name, attached) =>
        match g.options.lookup name, attached with
        | none, _ | some .flag, some _ => none
        | some .flag, none =>
          (g.takeOption given name "").bind fun given => g.scanFrom none given args
        | some _, some value =>
          (g.takeOption given name value).bind fun given => g.scanFrom none given args
        | some _, none => g.scanFrom (some name) given args

/-- Reads the arguments of a command. -/
def scan (g : Grammar) (args : List String) : Option Given := g.scanFrom none {} args

end Grammar

end EventDetection.Cli
