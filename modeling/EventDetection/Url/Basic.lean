import EventDetection.Url.Host

/-!
# URLs

A URL is read in the way of web browsers: blanks around it and line ends within it are
passed over, steps `.` and `..` of a path are taken, and what may not stand in a part
is encoded.  A step up does not leave a drive, whatever the scheme, and a line end behind the
drive of a file ends its step.

* `Url.parse?`: the URL that a text stands for.
* `Url.text`: its one written form.
* `Url.target`: the part that is sent to its host.
-/

namespace EventDetection

/-- What stands behind the host. -/
inductive Url.Path where
  | steps (steps : List (List Char))
  /-- a path that cannot be walked, as in `mailto:someone` -/
  | whole (text : List Char)
deriving DecidableEq

/-- A URL; its parts are encoded. -/
structure Url where
  scheme : List Char
  user : List Char := []
  password : List Char := []
  host : Option Url.Host := none
  portNumber : Option Nat := none
  path : Url.Path
  query : Option (List Char) := none
  fragment : Option (List Char) := none
deriving DecidableEq

namespace Url

/-! ### Schemes -/

def http : List Char := ['h', 't', 't', 'p']
def https : List Char := ['h', 't', 't', 'p', 's']
def file : List Char := ['f', 'i', 'l', 'e']

/-- The schemes of the web, with the numbers at which their servers listen. -/
def specialSchemes : List (List Char × Option Nat) := [
  (http, some 80), (https, some 443), (['w', 's'], some 80), (['w', 's', 's'], some 443),
  (['f', 't', 'p'], some 21), (file, none)]

def isSpecial (scheme : List Char) : Bool := specialSchemes.any fun s => s.1 = scheme

/-- The number at which the servers of a scheme listen, which is not written. -/
def defaultPort? (scheme : List Char) : Option Nat := (specialSchemes.lookup scheme).join

/-- The scheme in front of a colon, in small letters, and what follows. -/
def takeScheme? (cs : List Char) : Option (List Char × List Char) :=
  let scheme := cs.takeWhile fun c => c.isAlphanum || c ∈ ['+', '-', '.']
  match cs.drop scheme.length, scheme.head? with
  | ':' :: rest, some c => if c.isAlpha then some (scheme.map Char.toLower, rest) else none
  | _, _ => none

/-! ### Line ends -/

def isPassedOver (c : Char) : Bool := c = '\t' || c = '\n' || c = '\r'

/-- The text without line ends and tabs, which are passed over. -/
def joined (cs : List Char) : List Char := cs.filter (!isPassedOver ·)

/-! ### Paths -/

/-- What ends a step of a path. -/
def isSlash (special : Bool) (c : Char) : Bool := c = '/' || (special && c = '\\')

/-- A step that stays where it is. -/
def isStay (step : List Char) : Bool := step.map Char.toLower ∈ [['.'], ['%', '2', 'e']]

/-- A step that goes up. -/
def isUp (step : List Char) : Bool :=
  step.map Char.toLower ∈ [['.', '.'], ['.', '%', '2', 'e'], ['%', '2', 'e', '.'],
    ['%', '2', 'e', '%', '2', 'e']]

/-- A letter with a colon or a bar, as drives are named. -/
def isDrive : List Char → Bool
  | [a, b] => a.isAlpha && (b = ':' || b = '|')
  | _ => false

/-- Whether a step is a drive, or goes on with a backslash behind one. -/
def startsWithDrive (step : List Char) : Bool :=
  isDrive (step.take 2) && (step.drop 2).head?.all (· = '\\')

/-- The path without its last step; a drive stays. -/
def goUp (path : List (List Char)) : List (List Char) :=
  if path.getLast?.any startsWithDrive then path else path.dropLast

/-- The drive that a step starts with, and the text that a line end parts from it. -/
def partedDrive? (step : List Char) : Option (List Char × List Char) :=
  match step.dropWhile isPassedOver with
  | a :: more =>
    match more.dropWhile isPassedOver with
    | ':' :: behind =>
      if a.isAlpha ∧ behind.head?.any isPassedOver ∧ joined behind ≠ [] then
        some ([a, ':'], joined behind)
      else none
    | _ => none
  | [] => none

/-- Takes one step of text without line ends; the last one leaves an open end if it is not a
name.  The bar of the first drive of a file becomes a colon. -/
def takePlainStep (scheme : List Char) (last : Bool) (path : List (List Char))
    (step : List Char) : List (List Char) :=
  let openEnd := if last then [[]] else []
  if isUp step then goUp path ++ openEnd
  else if isStay step then path ++ openEnd
  else if scheme = file ∧ path = [] ∧ isDrive step then [step.take 1 ++ [':']]
  else path ++ [encode pathSet step]

/-- Takes one step.  What a line end parts from the first drive of a file is a name behind it,
even if it has the form of a step up. -/
def takeStep (scheme : List Char) (last : Bool) (path : List (List Char)) (step : List Char) :
    List (List Char) :=
  match if scheme = file ∧ path = [] then partedDrive? step else none with
  | some (drive, name) => [drive, encode pathSet name]
  | none => takePlainStep scheme last path (joined step)

/-- Takes the steps of a path. -/
def takeSteps (scheme : List Char) : (path : List (List Char)) → (steps : List (List Char)) →
    List (List Char)
  | path, [] => path
  | path, [s] => takeStep scheme true path s
  | path, s :: t :: ss => takeSteps scheme (takeStep scheme false path s) (t :: ss)

/-- Whether the first drive of a file is parted from a name behind it by a line end. -/
def hasPartedDrive : (path : List (List Char)) → (steps : List (List Char)) → Bool
  | _, [] => false
  | path, s :: ss =>
    (path = [] && (partedDrive? s).isSome) || hasPartedDrive (takeStep file false path s) ss

/-- The steps that a text gives. -/
def splitSteps (special : Bool) (cs : List Char) : List (List Char) :=
  Text.pieces '/' (if special then cs.map fun c => if c = '\\' then '/' else c else cs)

/-- The steps of a text behind the slash that a path starts with. -/
def stepsBehindSlash (scheme cs : List Char) : List (List Char) :=
  takeSteps scheme [] (splitSteps (isSpecial scheme) cs)

/-- The text without the slash that it may start with. -/
def behindSlash (special : Bool) (cs : List Char) : List Char :=
  if cs.head?.any (isSlash special) then cs.drop 1 else cs

/-- The steps of a path, from its first slash on, which it need not have. -/
def parseSteps (scheme cs : List Char) : List (List Char) :=
  if cs = [] then if isSpecial scheme then [[]] else []
  else stepsBehindSlash scheme (behindSlash (isSpecial scheme) cs)

/-- The steps of a file, which do not start with empty ones. -/
def withoutEmptySteps (steps : List (List Char)) : List (List Char) :=
  match steps.dropWhile (·.isEmpty) with
  | [] => [[]]
  | steps => steps

/-! ### Query and fragment -/

/-- The text before a mark, and what follows the mark. -/
def splitMark (mark : Char) (cs : List Char) : List Char × Option (List Char) :=
  match cs.dropWhile (· ≠ mark) with
  | [] => (cs, none)
  | _ :: rest => (cs.takeWhile (· ≠ mark), some rest)

/-- The path, the query and the fragment of a text, not encoded yet. -/
def splitTail (cs : List Char) : List Char × Option (List Char) × Option (List Char) :=
  let (cs, fragment) := splitMark '#' cs
  let (path, query) := splitMark '?' cs
  (path, query, fragment)

/-- The URL with query and fragment. -/
def withTail (u : Url) (query fragment : Option (List Char)) : Url :=
  { u with
    query := query.map (encode (if isSpecial u.scheme then specialQuerySet else querySet))
    fragment := fragment.map (encode fragmentSet) }

/-! ### Authorities -/

/-- The text before the last mark, if there is one, and the text behind it. -/
def splitLast (mark : Char) (cs : List Char) : Option (List Char) × List Char :=
  match splitMark mark cs.reverse with
  | (rest, some before) => (some before.reverse, rest.reverse)
  | (_, none) => (none, cs)

/-- The host and the text of the number behind it; colons in brackets belong to the host. -/
def splitPort : (inBrackets : Bool) → List Char → List Char × Option (List Char)
  | _, [] => ([], none)
  | b, c :: cs =>
    if c = ':' ∧ !b then ([], some cs)
    else
      let b := if c = '[' then true else if c = ']' then false else b
      let (host, number) := splitPort b cs
      (c :: host, number)

/-- The greatest number behind a host. -/
def maxPort : Nat := 65535

/-- The number behind a host that is written, which is none if it is that of the scheme, and the
text behind the number: a path may start there with a backslash. -/
def parsePort? (scheme : List Char) : Option (List Char) → Option (Option Nat × List Char)
  | none => some (none, [])
  | some cs => do
    let digits := cs.takeWhile Char.isDigit
    let rest := cs.dropWhile Char.isDigit
    let n ← numberOf? 10 digits
    if maxPort < n ∨ rest.head?.any (· ≠ '\\') then none
    else some (if digits = [] ∨ defaultPort? scheme = some n then none else some n, rest)

/-- A URL with two slashes behind its scheme.  Only a host that is not of the web may be left out,
and then the colon for a password may be all that stands in its place. -/
def parseWithAuthority? (scheme cs : List Char) : Option Url := do
  let (cs, query, fragment) := splitTail cs
  let special := isSpecial scheme
  let (login, place) := splitLast '@' (cs.takeWhile (!isSlash special ·))
  let (hostText, portText) := splitPort false place
  if hostText.isEmpty ∧ (special ∨ portText.isSome ∨ login.any (· ≠ [':'])) then none
  let host ← Host.parse? special hostText
  let (portNumber, rest) ← parsePort? scheme portText
  let (user, password) := splitMark ':' (login.getD [])
  return {
    scheme, host := some host, portNumber
    user := encode userinfoSet user, password := encode userinfoSet (password.getD [])
    path := .steps (parseSteps scheme (rest ++ cs.dropWhile (!isSlash special ·))) : Url }.withTail
      query fragment

/-- The host of a file; the name of the machine itself is no host. -/
def parseFileHost? (cs : List Char) : Option Host := do
  let host ← if cs.isEmpty then some (.name []) else Host.parse? true cs
  return if host = .name ['l', 'o', 'c', 'a', 'l', 'h', 'o', 's', 't'] then .name [] else host

/-- The host and the steps behind two slashes.  A drive in the place of the host is a step, and
one behind the host takes its place, unless a line end parts it from a name. -/
def parseFilePlace? (cs : List Char) : Option (Host × List (List Char)) := do
  let name := cs.takeWhile (!isSlash true ·)
  if isDrive (joined name) then return (.name [], stepsBehindSlash file cs)
  let host ← parseFileHost? (joined name)
  let rest := cs.drop name.length
  if host = .name [] then return (host, stepsBehindSlash file rest)
  let steps := parseSteps file rest
  let isTaken := steps.head?.any isDrive &&
    !hasPartedDrive [] (splitSteps true (behindSlash true rest))
  return (if isTaken then .name [] else host, steps)

/-- A URL of a file, whose text may have line ends. -/
def parseFile? (cs : List Char) : Option Url := do
  let (cs, query, fragment) := splitTail cs
  let cs := cs.dropWhile isPassedOver
  let (host, steps) ← match cs, (cs.drop 1).dropWhile isPassedOver with
    | a :: _, b :: rest =>
      if isSlash true a ∧ isSlash true b then parseFilePlace? rest
      else some (.name [], parseSteps file cs)
    | _, _ => some (.name [], parseSteps file cs)
  return { scheme := file, host := some host, path := .steps (withoutEmptySteps steps) : Url
    }.withTail (query.map joined) (fragment.map joined)

/-! ### Whole URLs -/

def isEnd (c : Char) : Bool := c.toNat ≤ 0x20

/-- The text without blanks around it. -/
def withoutEnds (cs : List Char) : List Char :=
  ((cs.dropWhile isEnd).reverse.dropWhile isEnd).reverse

/-- The URL that a text stands for.  In that of a file, line ends show in one place. -/
def parse? (s : String) : Option Url := do
  let whole := withoutEnds s.toList
  let (scheme, cs) ← takeScheme? (joined whole)
  if scheme = file then parseFile? ((whole.dropWhile (· ≠ ':')).drop 1)
  else if isSpecial scheme then parseWithAuthority? scheme (cs.dropWhile (isSlash true))
  else
    match cs with
    | '/' :: '/' :: cs => parseWithAuthority? scheme cs
    | cs =>
      let (path, query, fragment) := splitTail cs
      let path : Path := match path with
        | '/' :: _ => .steps (parseSteps scheme path)
        | _ => .whole (encode controlSet path)
      return { scheme, path : Url }.withTail query fragment

/-! ### The written form -/

def Path.text : Path → List Char
  | .steps ss => ss.flatMap ('/' :: ·)
  | .whole cs => cs

/-- User and password in front of the host. -/
def loginText (u : Url) : List Char :=
  if u.user = [] ∧ u.password = [] then []
  else u.user ++ (if u.password = [] then [] else ':' :: u.password) ++ ['@']

/-- What stands between scheme and path.  Without a host, a path must not start with two slashes. -/
def authorityText (u : Url) : List Char :=
  match u.host, u.path with
  | some h, _ =>
    '/' :: '/' :: (u.loginText ++ h.text ++
      (match u.portNumber with
        | some n => ':' :: Nat.toDigits 10 n
        | none => []))
  | none, .steps ([] :: _ :: _) => ['/', '.']
  | none, _ => []

def queryText (u : Url) : List Char :=
  match u.query with
  | some q => '?' :: q
  | none => []

def fragmentText (u : Url) : List Char :=
  match u.fragment with
  | some f => '#' :: f
  | none => []

def text (u : Url) : String :=
  String.ofList <|
    u.scheme ++ ':' :: (u.authorityText ++ u.path.text ++ u.queryText ++ u.fragmentText)

/-- The part that is sent to the host. -/
def target (u : Url) : String := String.ofList (u.path.text ++ u.queryText)

def hasHost (u : Url) : Bool :=
  match u.host with
  | none | some (.name []) => false
  | some _ => true

/-- The URL without user and password. -/
def withoutLogin (u : Url) : Url := { u with user := [], password := [] }

end Url

end EventDetection
