import EventDetection.Json.Error

/-!
# Reading JSON text

A scanner reads a value at the start of a text and returns it with the rest of the
text.  Errors come in the order of the text: the first place that is not JSON, or
not of the shape asked for, ends the reading.

* `scanString`, `scanNumber`, `scanWord`: single tokens.
* `scanItems`, `scanMembers`: the loops over the items of a list and the members of
  an object, for any way of reading one of them.
* `scanValue`: a value of any shape.  Its first argument is the number of containers
  that may still be opened, which bounds the recursion.
* `skipValue`: passes over a value that nobody asked for, of any depth.
-/

namespace EventDetection.Json

/-- A text that is not JSON. -/
def syntaxError {α : Type} (e : SyntaxError) : Except ReadError α := .error (.badSyntax e)

def isSpace (c : Char) : Bool := c = ' ' || c = '\n' || c = '\t' || c = '\r'

def skipSpaces (cs : List Char) : List Char := cs.dropWhile isSpace

/-- The rest of a word whose first letter was read. -/
def scanWord : (word : List Char) → List Char → Except ReadError (List Char)
  | [], cs => .ok cs
  | _ :: _, [] => syntaxError .endInValue
  | w :: ws, c :: cs => if c = w then scanWord ws cs else syntaxError .expectedIdent

/-! ### Strings -/

/-- What the next character of a string belongs to. -/
inductive Pending where
  /-- a character of its own, an escape, or the closing quote -/
  | plain
  /-- the letter after a backslash -/
  | letter
  /-- `count` more hexadecimal digits, those before having the value `value` -/
  | hex (count value : Nat)
  /-- the backslash that must follow the first half of a surrogate pair -/
  | lowBackslash (high : Nat)
  /-- the letter `u` of the second half -/
  | lowLetter (high : Nat)
  /-- the digits of the second half -/
  | lowHex (high count value : Nat)

def hexValue? (c : Char) : Option Nat :=
  if '0' ≤ c && c ≤ '9' then some (c.toNat - 48)
  else if 'a' ≤ c && c ≤ 'f' then some (c.toNat - 87)
  else if 'A' ≤ c && c ≤ 'F' then some (c.toNat - 55)
  else none

/-- The character that a letter after a backslash stands for. -/
def escapedBy? (c : Char) : Option Char :=
  if c = '"' then some '"'
  else if c = '\\' then some '\\'
  else if c = '/' then some '/'
  else if c = 'b' then some '\x08'
  else if c = 'f' then some '\x0c'
  else if c = 'n' then some '\n'
  else if c = 'r' then some '\r'
  else if c = 't' then some '\t'
  else none

/-- Whether less than four bytes are left, too few for four digits. -/
def tooShortForHex (cs : List Char) : Bool :=
  (cs.take 4).foldl (fun n c => n + c.utf8Size) 0 < 4

/-- Reads a string behind its opening quote; `acc` holds its characters so far, the last one
first. -/
def scanStringFrom : Pending → (acc : List Char) → List Char →
    Except ReadError (List Char × List Char)
  | _, _, [] => syntaxError .endInString
  | .plain, acc, c :: cs =>
    if c = '"' then .ok (acc.reverse, cs)
    else if c = '\\' then scanStringFrom .letter acc cs
    else if c.toNat < 0x20 then syntaxError .controlCharacter
    else scanStringFrom .plain (c :: acc) cs
  | .letter, acc, c :: cs =>
    if c = 'u' then
      if tooShortForHex cs then syntaxError .endInString else scanStringFrom (.hex 4 0) acc cs
    else
      match escapedBy? c with
      | some e => scanStringFrom .plain (e :: acc) cs
      | none => syntaxError .invalidEscape
  | .hex count value, acc, c :: cs =>
    match hexValue? c with
    | none => syntaxError .invalidEscape
    | some d =>
      let n := 16 * value + d
      if 1 < count then scanStringFrom (.hex (count - 1) n) acc cs
      else if 0xDC00 ≤ n && n ≤ 0xDFFF then syntaxError .loneSurrogate
      else if 0xD800 ≤ n && n ≤ 0xDBFF then scanStringFrom (.lowBackslash n) acc cs
      else scanStringFrom .plain (Char.ofNat n :: acc) cs
  | .lowBackslash high, acc, c :: cs =>
    if c = '\\' then scanStringFrom (.lowLetter high) acc cs
    else syntaxError .unfinishedSurrogate
  | .lowLetter high, acc, c :: cs =>
    if c = 'u' then
      if tooShortForHex cs then syntaxError .endInString
      else scanStringFrom (.lowHex high 4 0) acc cs
    else syntaxError .unfinishedSurrogate
  | .lowHex high count value, acc, c :: cs =>
    match hexValue? c with
    | none => syntaxError .invalidEscape
    | some d =>
      let n := 16 * value + d
      if 1 < count then scanStringFrom (.lowHex high (count - 1) n) acc cs
      else if n < 0xDC00 || 0xDFFF < n then syntaxError .loneSurrogate
      else
        let point := 0x10000 + (high - 0xD800) * 0x400 + (n - 0xDC00)
        scanStringFrom .plain (Char.ofNat point :: acc) cs

/-- Reads a string behind its opening quote. -/
def scanString (cs : List Char) : Except ReadError (String × List Char) := do
  let (s, rest) ← scanStringFrom .plain [] cs
  return (String.ofList s, rest)

/-! ### Numbers -/

def digitValue (c : Char) : Nat := c.toNat - 48

/-- Takes digits into a number as long as it fits an unsigned word, and returns the digits
that are left. -/
def absorb (n : Nat) : List Char → Nat × List Char
  | [] => (n, [])
  | c :: cs =>
    let m := 10 * n + digitValue c
    if m < UInt64.size then absorb m cs else (n, c :: cs)

/-- The number with the digits `significand` and the given exponent. -/
def realNumber (positive : Bool) (significand : Nat) (exponent : Int) (rest : List Char) :
    Except ReadError (Number × List Char) :=
  match Binary64.ofParts? positive significand.toUInt64 exponent with
  | some x => .ok (.real x, rest)
  | none => syntaxError .numberOutOfRange

/-- The largest exponent that a text may give. -/
def maxExponent : Nat := 2147483647

/-- Reads the exponent of a number, behind its letter. -/
def scanExponent (positive : Bool) (significand : Nat) (exponent : Int) (cs : List Char) :
    Except ReadError (Number × List Char) :=
  let (upward, cs) := match cs with
    | '+' :: r => (true, r)
    | '-' :: r => (false, r)
    | r => (true, r)
  match cs with
  | [] => syntaxError .endInValue
  | c :: _ =>
    if !c.isDigit then syntaxError .invalidNumber
    else
      let digits := cs.takeWhile Char.isDigit
      let rest := cs.dropWhile Char.isDigit
      let n := digits.foldl (fun n c => 10 * n + digitValue c) 0
      if maxExponent < n then
        if significand ≠ 0 && upward then syntaxError .numberOutOfRange
        else .ok (.real (Binary64.zero positive), rest)
      else realNumber positive significand (if upward then exponent + n else exponent - n) rest

/-- Reads what may follow the digits of a number that is no integer. -/
def scanAfterDigits (positive : Bool) (significand : Nat) (exponent : Int) (cs : List Char) :
    Except ReadError (Number × List Char) :=
  match cs with
  | c :: r =>
    if c = 'e' || c = 'E' then scanExponent positive significand exponent r
    else realNumber positive significand exponent cs
  | [] => realNumber positive significand exponent []

/-- Reads the fraction of a number, behind its point. -/
def scanFraction (positive : Bool) (significand : Nat) (exponent : Int) (cs : List Char) :
    Except ReadError (Number × List Char) :=
  let digits := cs.takeWhile Char.isDigit
  let rest := cs.dropWhile Char.isDigit
  if digits.isEmpty then
    if rest.isEmpty then syntaxError .endInValue else syntaxError .invalidNumber
  else
    let (n, left) := absorb significand digits
    scanAfterDigits positive n (exponent - (digits.length - left.length : Nat)) rest

/-- An integer, if it fits a word, with its sign. -/
def wordNumber (positive : Bool) (n : Nat) (rest : List Char) :
    Except ReadError (Number × List Char) :=
  if positive then .ok (.integer n, rest)
  else if n = 0 || 0x8000000000000000 < n then realNumber false n 0 rest
  else .ok (.integer (-n), rest)

/-- Reads a number behind its sign. -/
def scanNumber (positive : Bool) (cs : List Char) : Except ReadError (Number × List Char) :=
  let digits := cs.takeWhile Char.isDigit
  let rest := cs.dropWhile Char.isDigit
  match digits with
  | [] => if cs.isEmpty then syntaxError .endInValue else syntaxError .invalidNumber
  | '0' :: _ :: _ => syntaxError .invalidNumber
  | _ =>
    let (n, left) := absorb 0 digits
    match rest with
    | '.' :: r => scanFraction positive n left.length r
    | c :: r =>
      if c = 'e' || c = 'E' then scanExponent positive n left.length r
      else if left.isEmpty then wordNumber positive n rest
      else realNumber positive n left.length rest
    | [] => if left.isEmpty then wordNumber positive n [] else realNumber positive n left.length []

/-! ### Lists and objects -/

/-- Goes to the next item of a list: behind the bracket, or behind the comma. -/
def nextItem (first : Bool) (cs : List Char) : Except ReadError (List Char) :=
  match first, cs with
  | true, cs => .ok cs
  | false, ',' :: r =>
    match skipSpaces r with
    | [] => syntaxError .endInValue
    | ']' :: _ => syntaxError .trailingComma
    | r => .ok r
  | false, _ => syntaxError .expectedListEnd

/-- Reads the items of a list up to its closing bracket.  The fuel bounds their number; it is
the length of the text. -/
def scanItems {α : Type} (item : List Char → Except ReadError (α × List Char)) :
    (fuel : Nat) → (first : Bool) → List Char → Except ReadError (List α × List Char)
  | 0, _, _ => syntaxError .endInList
  | fuel + 1, first, cs =>
    match skipSpaces cs with
    | [] => syntaxError .endInList
    | ']' :: rest => .ok ([], rest)
    | cs => do
      let (x, rest) ← item (← nextItem first cs)
      let (xs, rest) ← scanItems item fuel false rest
      return (x :: xs, rest)

/-- Goes to the name of the next member of an object, behind its opening quote. -/
def nextName (first : Bool) (cs : List Char) : Except ReadError (List Char) :=
  match first, cs with
  | true, '"' :: r => .ok r
  | true, _ => syntaxError .keyNotString
  | false, ',' :: r =>
    match skipSpaces r with
    | [] => syntaxError .endInValue
    | '"' :: r => .ok r
    | '\x7d' :: _ => syntaxError .trailingComma
    | _ => syntaxError .keyNotString
  | false, _ => syntaxError .expectedObjectEnd

/-- Reads the colon behind a name. -/
def scanColon (cs : List Char) : Except ReadError (List Char) :=
  match skipSpaces cs with
  | [] => syntaxError .endInObject
  | ':' :: rest => .ok rest
  | _ => syntaxError .expectedColon

/-- Reads the members of an object up to its closing brace.  `member` takes a name, what was
made of the members before, and the text behind the name. -/
def scanMembers {σ : Type} (member : String → σ → List Char → Except ReadError (σ × List Char)) :
    (fuel : Nat) → (first : Bool) → σ → List Char → Except ReadError (σ × List Char)
  | 0, _, _, _ => syntaxError .endInObject
  | fuel + 1, first, s, cs =>
    match skipSpaces cs with
    | [] => syntaxError .endInObject
    | '\x7d' :: rest => .ok (s, rest)
    | cs => do
      let (name, rest) ← scanString (← nextName first cs)
      let (s, rest) ← member name s rest
      scanMembers member fuel false s rest

/-- Files the value of a member under its name. -/
def scanEntry {α : Type} (value : List Char → Except ReadError (α × List Char))
    (name : String) (d : Dict α) (cs : List Char) : Except ReadError (Dict α × List Char) := do
  let (x, rest) ← value (← scanColon cs)
  return (d.insert name x, rest)

/-- Reads a value of any shape, with `room` containers to open at most. -/
def scanValue (room : Nat) (cs : List Char) : Except ReadError (Value × List Char) :=
  match skipSpaces cs with
  | [] => syntaxError .endInValue
  | 'n' :: rest => return (.null, ← scanWord ['u', 'l', 'l'] rest)
  | 't' :: rest => return (.bool true, ← scanWord ['r', 'u', 'e'] rest)
  | 'f' :: rest => return (.bool false, ← scanWord ['a', 'l', 's', 'e'] rest)
  | '"' :: rest => do
    let (s, rest) ← scanString rest
    return (.string s, rest)
  | '-' :: rest => do
    let (n, rest) ← scanNumber false rest
    return (.number n, rest)
  | '[' :: rest =>
    match room with
    | 0 => syntaxError .tooDeep
    | room + 1 => do
      let (items, rest) ← scanItems (scanValue room) (rest.length + 1) true rest
      return (.array items, rest)
  | '\x7b' :: rest =>
    match room with
    | 0 => syntaxError .tooDeep
    | room + 1 => do
      let (d, rest) ←
        scanMembers (scanEntry (scanValue room)) (rest.length + 1) true Dict.empty rest
      return (.ofDict d, rest)
  | c :: rest =>
    if c.isDigit then do
      let (n, rest) ← scanNumber true (c :: rest)
      return (.number n, rest)
    else syntaxError .expectedValue

/-- The number of containers that a text may nest. -/
def maxDepth : Nat := 127

/-- The whole of a text must have been read, blanks apart. -/
def atEnd {α : Type} : α × List Char → Except ReadError α
  | (x, rest) => if (skipSpaces rest).isEmpty then .ok x else syntaxError .trailingCharacters

/-- The value of a JSON text. -/
def Value.parse (text : String) : Except ReadError Value :=
  scanValue maxDepth text.toList >>= atEnd

/-- Why a text that holds something else is not read as what was `expected`. -/
def mismatch (expected : String) (cs : List Char) : ReadError :=
  let report (found : Except ReadError (Found × List Char)) : ReadError := match found with
    | .ok (f, _) => .wrongType f expected
    | .error e => e
  match cs with
  | [] => .badSyntax .endInValue
  | 'n' :: rest => report (return (.null, ← scanWord ['u', 'l', 'l'] rest))
  | 't' :: rest => report (return (.bool true, ← scanWord ['r', 'u', 'e'] rest))
  | 'f' :: rest => report (return (.bool false, ← scanWord ['a', 'l', 's', 'e'] rest))
  | '"' :: rest => report (do
    let (s, rest) ← scanString rest
    return (.string s, rest))
  | '-' :: rest => report (do
    let (n, rest) ← scanNumber false rest
    return (.number n, rest))
  | '[' :: _ => .wrongType .sequence expected
  | '\x7b' :: _ => .wrongType .map expected
  | c :: rest =>
    if c.isDigit then report (do
      let (n, rest) ← scanNumber true (c :: rest)
      return (.number n, rest))
    else .badSyntax .expectedValue

end EventDetection.Json
