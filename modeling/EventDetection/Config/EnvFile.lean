import EventDetection.Config.Basic
import EventDetection.Text.Alphanumeric

/-!
# Environment files

A file sets variables, one per line, as in `NAME=value`, with an optional `export` in
front.

* A value may be quoted.  Between double quotes and outside of quotes a backslash
  escapes a quote, a dollar, a blank or itself, and `\n` is a new line.  A quoted value
  may span lines.
* `$NAME` and `${NAME}` stand for the value of a variable of the environment or, failing
  that, for a value that the file gave before.
* A `#` at the start of a line or after a blank starts a comment.
* A variable that is set already keeps its value.  A line that cannot be read ends the
  reading; what was set before it stays.
-/

namespace EventDetection.EnvFile

/-! ### Lines -/

/-- What the characters of a line before a place amount to. -/
inductive LineState where
  | plain
  | blank
  | escaped
  | single
  | singleEscaped
  | double
  | doubleEscaped
deriving DecidableEq

def LineState.next (s : LineState) (c : Char) : LineState :=
  let opened : LineState :=
    if c = '\\' then .escaped else if c = '"' then .double else if c = '\'' then .single
    else .plain
  match s with
  | .plain => if Text.isBlank c && c ≠ '\n' && c ≠ '\r' then .blank else opened
  | .blank => opened
  | .escaped => .plain
  | .single => if c = '\\' then .singleEscaped else if c = '\'' then .plain else .single
  | .singleEscaped => .single
  | .double => if c = '\\' then .doubleEscaped else if c = '"' then .plain else .double
  | .doubleEscaped => .double

/-- The text behind the next new line. -/
def dropLine (cs : List Char) : List Char := (cs.dropWhile (· ≠ '\n')).drop 1

/-- The line without the marks that end it; `cs` is the line backwards, behind its new line. -/
def finishLine : List Char → List Char
  | '\r' :: cs => cs.reverse
  | cs => cs.reverse

/-- The first line of a text and what follows it.  A quoted value that is not closed, or a blank
that nothing follows, is no line. -/
def takeLine : LineState → (before : List Char) → List Char → Option (List Char × List Char)
  | s, before, [] => if s = .plain then some (before.reverse, []) else none
  | s, before, c :: cs =>
    if s = .blank ∧ c = '#' then some (before.reverse, dropLine cs)
    else if s.next c = .plain ∧ c = '\n' then some (finishLine before, cs)
    else takeLine (s.next c) (c :: before) cs

/-! ### Values -/

/-- Where the reading of a value stands.  The flags tell whether double quotes are open. -/
inductive ValueState where
  | text (quoted : Bool)
  | single
  | escaped (quoted : Bool)
  /-- in a name behind a dollar, which is kept backwards -/
  | name (quoted : Bool) (name : List Char)
  /-- in a name in braces -/
  | braced (quoted : Bool) (name : List Char)
  /-- behind the value -/
  | done

/-- Reads a value; `lookup` gives what a name stands for, and `out` is the value so far,
backwards. -/
def readValue (lookup : String → String) :
    ValueState → (out : List Char) → List Char → Option (List Char)
  | s, out, [] =>
    match s with
    | .text false | .escaped false | .done => some out.reverse
    | .name false n => some (out.reverse ++ (lookup (String.ofList n.reverse)).toList)
    | _ => none
  | .done, out, c :: cs =>
    if c = ' ' ∨ c = '\t' then readValue lookup .done out cs
    else if c = '#' then some out.reverse
    else none
  | .escaped quoted, out, c :: cs =>
    if c = 'n' then readValue lookup (.text quoted) ('\n' :: out) cs
    else if c ∈ ['\\', '\'', '"', '$', ' '] then readValue lookup (.text quoted) (c :: out) cs
    else none
  | .single, out, c :: cs =>
    if c = '\'' then readValue lookup (.text false) out cs
    else readValue lookup .single (c :: out) cs
  | .name quoted n, out, c :: cs =>
    if Text.isAlphanumeric c then readValue lookup (.name quoted (c :: n)) out cs
    else if c = '\x7b' ∧ n = [] then readValue lookup (.braced quoted []) out cs
    else
      let out := (lookup (String.ofList n.reverse)).toList.reverse ++ out
      if c = '$' then readValue lookup (.name quoted []) out cs
      else readValue lookup (.text quoted) (c :: out) cs
  | .braced quoted n, out, c :: cs =>
    if c = '\x7d' then
      readValue lookup (.text quoted) ((lookup (String.ofList n.reverse)).toList.reverse ++ out) cs
    else readValue lookup (.braced quoted (c :: n)) out cs
  | .text quoted, out, c :: cs =>
    if c = '$' then readValue lookup (.name quoted []) out cs
    else if c = '\\' then readValue lookup (.escaped quoted) out cs
    else if c = '"' then readValue lookup (.text !quoted) out cs
    else if quoted then readValue lookup (.text true) (c :: out) cs
    else if c = '\'' then readValue lookup .single out cs
    else if c = ' ' ∨ c = '\t' then readValue lookup .done out cs
    else readValue lookup (.text false) (c :: out) cs

/-! ### Assignments -/

def skipBlanks (cs : List Char) : List Char := cs.dropWhile Text.isBlank

def startsName (c : Char) : Bool := c.isAlpha || c = '_'

def continuesName (c : Char) : Bool := c.isAlphanum || c = '_' || c = '.'

/-- The name at the start of a text. -/
def takeName : List Char → Option (String × List Char)
  | [] => none
  | c :: cs =>
    if startsName c then
      some (String.ofList ((c :: cs).takeWhile continuesName), (c :: cs).dropWhile continuesName)
    else none

/-- What follows an equals sign. -/
def takeEquals : List Char → Option (List Char)
  | '=' :: cs => some cs
  | _ => none

/-- The name that a line sets and the text of its value.  The word `export` may stand in front of
a name, and may be the name. -/
def takeTarget (cs : List Char) : Option (String × List Char) := do
  let (name, cs) ← takeName cs
  match name, takeEquals (skipBlanks cs) with
  | _, some cs => some (name, skipBlanks cs)
  | "export", none => do
    let (name, cs) ← takeName (skipBlanks cs)
    some (name, skipBlanks (← takeEquals (skipBlanks cs)))
  | _, none => none

/-- There is nothing but a comment. -/
def isRemark : List Char → Bool
  | [] => true
  | c :: _ => c = '#'

/-- The variable that a line sets, and its value. -/
def readAssignment (lookup : String → String) (line : List Char) : Option (String × String) := do
  let (name, value) ← takeTarget line
  if isRemark value then some (name, "")
  else some (name, String.ofList (← readValue lookup (.text false) [] value))

/-! ### Files -/

/-- Sets the variables of the lines of a text; `given` holds the values that the file gave
before. -/
def loadLines : (fuel : Nat) → (env : Environment) → (given : Dict String) → List Char → Environment
  | 0, env, _, _ => env
  | fuel + 1, env, given, cs =>
    if cs.isEmpty then env
    else if isRemark (skipBlanks (cs.takeWhile (· ≠ '\n'))) then
      loadLines fuel env given (dropLine cs)
    else
      match takeLine .plain [] cs with
      | none => env
      | some (line, cs) =>
        let lookup name := ((env.get? name).or (given.get? name)).getD ""
        match readAssignment lookup (skipBlanks (Text.trimEnd line)) with
        | none => env
        | some (name, value) =>
          let env := if (env.get? name).isSome then env else env.insert name value
          loadLines fuel env (given.insert name value) cs

/-- The environment with the variables of a file. -/
def load (env : Environment) (file : String) : Environment :=
  let cs := match file.toList with
    | '\ufeff' :: cs => cs
    | cs => cs
  loadLines (cs.length + 1) env Dict.empty cs

end EventDetection.EnvFile
