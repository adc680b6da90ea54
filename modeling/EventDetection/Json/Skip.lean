import EventDetection.Json.Scanner

/-!
# Passing over JSON

The values of members that a record does not declare are passed over.  They must be
JSON, but they are looked at less closely than values that are read: they may be
nested to any depth, a number may be of any size, and the halves of a surrogate pair
may stand alone.
-/

namespace EventDetection.Json

/-- What the next character of a string that is passed over belongs to. -/
inductive SkipPending where
  | plain
  | letter
  | hex (count : Nat)

/-- Passes over a string behind its opening quote. -/
def skipString : SkipPending → List Char → Except ReadError (List Char)
  | _, [] => syntaxError .endInString
  | .plain, c :: cs =>
    if c = '"' then .ok cs
    else if c = '\\' then skipString .letter cs
    else if c.toNat < 0x20 then syntaxError .controlCharacter
    else skipString .plain cs
  | .letter, c :: cs =>
    if c = 'u' then
      if tooShortForHex cs then syntaxError .endInString else skipString (.hex 4) cs
    else if (escapedBy? c).isSome then skipString .plain cs
    else syntaxError .invalidEscape
  | .hex count, c :: cs =>
    if (hexValue? c).isNone then syntaxError .invalidEscape
    else if 1 < count then skipString (.hex (count - 1)) cs
    else skipString .plain cs

/-- Passes over the exponent of a number, behind its letter. -/
def skipExponent (cs : List Char) : Except ReadError (List Char) :=
  let cs := match cs with
    | '+' :: r => r
    | '-' :: r => r
    | r => r
  match cs with
  | [] => syntaxError .invalidNumber
  | c :: r => if c.isDigit then .ok (r.dropWhile Char.isDigit) else syntaxError .invalidNumber

/-- Passes over what may follow the digits of a number. -/
def skipAfterDigits (cs : List Char) : Except ReadError (List Char) :=
  match cs with
  | [] => .ok []
  | c :: r => if c = 'e' || c = 'E' then skipExponent r else .ok cs

/-- Passes over a number behind its sign. -/
def skipNumber (cs : List Char) : Except ReadError (List Char) :=
  let rest := cs.dropWhile Char.isDigit
  match cs.takeWhile Char.isDigit with
  | [] => syntaxError .invalidNumber
  | '0' :: _ :: _ => syntaxError .invalidNumber
  | _ =>
    match rest with
    | '.' :: r =>
      if (r.takeWhile Char.isDigit).isEmpty then syntaxError .invalidNumber
      else skipAfterDigits (r.dropWhile Char.isDigit)
    | rest => skipAfterDigits rest

/-- A container that was opened and not yet closed. -/
inductive Container where
  | list
  | object
deriving DecidableEq

/-- Passes over the name and the colon of a member. -/
def skipName (cs : List Char) : Except ReadError (List Char) :=
  match skipSpaces cs with
  | [] => syntaxError .endInObject
  | '"' :: rest => do scanColon (← skipString .plain rest)
  | _ => syntaxError .keyNotString

/-- Where passing over a value stands. -/
inductive SkipState where
  /-- a value comes next -/
  | value
  /-- a container was opened -/
  | opened
  /-- a value ended -/
  | ended

/-- Passes over values until the containers of the stack are closed.  The fuel bounds the
number of steps; twice the length of the text is enough. -/
def skipFrom : (fuel : Nat) → List Container → SkipState → List Char →
    Except ReadError (List Char)
  | 0, _, _, _ => syntaxError .endInValue
  | _ + 1, [], .ended, cs => .ok cs
  | fuel + 1, stack, .value, cs =>
    match skipSpaces cs with
    | [] => syntaxError .endInValue
    | 'n' :: r => do skipFrom fuel stack .ended (← scanWord ['u', 'l', 'l'] r)
    | 't' :: r => do skipFrom fuel stack .ended (← scanWord ['r', 'u', 'e'] r)
    | 'f' :: r => do skipFrom fuel stack .ended (← scanWord ['a', 'l', 's', 'e'] r)
    | '"' :: r => do skipFrom fuel stack .ended (← skipString .plain r)
    | '-' :: r => do skipFrom fuel stack .ended (← skipNumber r)
    | '[' :: r => skipFrom fuel (.list :: stack) .opened r
    | '\x7b' :: r => skipFrom fuel (.object :: stack) .opened r
    | c :: r =>
      if c.isDigit then do skipFrom fuel stack .ended (← skipNumber (c :: r))
      else syntaxError .expectedValue
  | _ + 1, [], .opened, cs => .ok cs
  | fuel + 1, .list :: stack, state, cs =>
    match state, skipSpaces cs with
    | _, [] => syntaxError .endInList
    | _, ']' :: r => skipFrom fuel stack .ended r
    | .ended, ',' :: r => skipFrom fuel (.list :: stack) .value r
    | .ended, _ => syntaxError .expectedListEnd
    | _, cs => skipFrom fuel (.list :: stack) .value cs
  | fuel + 1, .object :: stack, state, cs =>
    match state, skipSpaces cs with
    | _, [] => syntaxError .endInObject
    | _, '\x7d' :: r => skipFrom fuel stack .ended r
    | .ended, ',' :: r => do skipFrom fuel (.object :: stack) .value (← skipName r)
    | .ended, _ => syntaxError .expectedObjectEnd
    | _, cs => do skipFrom fuel (.object :: stack) .value (← skipName cs)

/-- Passes over a value. -/
def skipValue (cs : List Char) : Except ReadError (List Char) :=
  skipFrom (2 * cs.length + 2) [] .value cs

end EventDetection.Json
