import EventDetection.Json.Skip
import EventDetection.Json.Printer

/-!
# Codecs

A `Codec α` says how a value of type `α` is written as JSON, how it is read from a
JSON value, and how it is read from JSON text.  The two ways of reading differ in
the order in which they meet the parts of an object: a text is read as it stands,
a value in the order of its names.
-/

namespace EventDetection.Json

/-- How values of type `α` are written and read. -/
structure Codec (α : Type) where
  write : α → Value
  ofValue : Value → Except ReadError α
  /-- Reads a value at the start of a text, with `room` containers to open at most. -/
  scan : (room : Nat) → List Char → Except ReadError (α × List Char)

namespace Codec

variable {α β : Type}

/-- The compact text of a value. -/
def text (c : Codec α) (x : α) : String := (c.write x).compact

/-- Reads a whole text. -/
def read (c : Codec α) (text : String) : Except ReadError α :=
  c.scan maxDepth text.toList >>= atEnd

/-- A codec for the values that `α` stands for. -/
def convert (c : Codec α) (f : α → β) (back : β → α) : Codec β where
  write y := c.write (back y)
  ofValue v := (c.ofValue v).map f
  scan room cs := (c.scan room cs).map fun r => (f r.1, r.2)

/-- A value of any shape. -/
def value : Codec Value where
  write v := v
  ofValue v := .ok v
  scan := scanValue

/-! ### Scalars -/

def string : Codec String where
  write := .string
  ofValue
    | .string s => .ok s
    | v => .error (.wrongType v.found "a string")
  scan _ cs :=
    match skipSpaces cs with
    | '"' :: rest => scanString rest
    | cs => .error (mismatch "a string" cs)

def bool : Codec Bool where
  write := .bool
  ofValue
    | .bool b => .ok b
    | v => .error (.wrongType v.found "a boolean")
  scan _ cs :=
    match skipSpaces cs with
    | 't' :: rest => return (true, ← scanWord ['r', 'u', 'e'] rest)
    | 'f' :: rest => return (false, ← scanWord ['a', 'l', 's', 'e'] rest)
    | cs => .error (mismatch "a boolean" cs)

/-- The integer that a number is, if the word takes it. -/
def wordOf (name : String) (ofInt? : Int → Option α) : Number → Except ReadError α
  | .integer n =>
    match ofInt? n with
    | some x => .ok x
    | none => .error (.wrongValue (.number (.integer n)) name)
  | .real x => .error (.wrongType (.number (.real x)) name)

/-- An integer of a bounded range, with the name that the range has in messages. -/
def word (name : String) (toInt : α → Int) (ofInt? : Int → Option α) : Codec α where
  write x := .number (.integer (toInt x))
  ofValue
    | .number n => wordOf name ofInt? n
    | v => .error (.wrongType v.found name)
  scan _ cs :=
    match skipSpaces cs with
    | '-' :: rest => do
      let (n, rest) ← scanNumber false rest
      return (← wordOf name ofInt? n, rest)
    | c :: rest =>
      if c.isDigit then do
        let (n, rest) ← scanNumber true (c :: rest)
        return (← wordOf name ofInt? n, rest)
      else .error (mismatch name (c :: rest))
    | [] => .error (mismatch name [])

/-- A signed 64-bit integer. -/
def int64 : Codec Int64 :=
  word "i64" Int64.toInt fun n =>
    if Int64.minValue.toInt ≤ n ∧ n ≤ Int64.maxValue.toInt then some (Int64.ofInt n) else none

/-- An unsigned 32-bit integer. -/
def uint32 : Codec UInt32 :=
  word "u32" (fun x => x.toNat) fun n =>
    if 0 ≤ n ∧ n.toNat < UInt32.size then some (UInt32.ofNat n.toNat) else none

/-- An unsigned 64-bit integer. -/
def uint64 : Codec UInt64 :=
  word "u64" (fun x => x.toNat) fun n =>
    if 0 ≤ n ∧ n.toNat < UInt64.size then some (UInt64.ofNat n.toNat) else none

/-- A number of things. -/
def count : Codec UInt64 :=
  word "usize" (fun x => x.toNat) fun n =>
    if 0 ≤ n ∧ n.toNat < UInt64.size then some (UInt64.ofNat n.toNat) else none

/-! ### Choices and containers -/

/-- A value or null. -/
def optional (c : Codec α) : Codec (Option α) where
  write
    | none => .null
    | some x => c.write x
  ofValue
    | .null => .ok none
    | v => (c.ofValue v).map some
  scan room cs :=
    match skipSpaces cs with
    | 'n' :: rest => return (none, ← scanWord ['u', 'l', 'l'] rest)
    | cs => do
      let (x, rest) ← c.scan room cs
      return (some x, rest)

/-- The alternative of the given name. -/
def tagOf (all : List α) (name : α → String) (s : String) : Except ReadError α :=
  match all.find? fun x => name x = s with
  | some x => .ok x
  | none => .error (.unknownVariant s (all.map name))

/-- One of several alternatives, by its name.  It may also be given as an object whose only
member has that name and the value null. -/
def tag (all : List α) (name : α → String) : Codec α where
  write x := .string (name x)
  ofValue
    | .string s => tagOf all name s
    | .object [(s, v)] => do
      let x ← tagOf all name s
      match v with
      | .null => .ok x
      | v => .error (.wrongType v.found "unit")
    | .object _ => .error (.wrongValue .map "map with a single key")
    | v => .error (.wrongType v.found "string or map")
  scan room cs :=
    match skipSpaces cs with
    | [] => syntaxError .endInValue
    | '"' :: rest => do
      let (s, rest) ← scanString rest
      return (← tagOf all name s, rest)
    | '\x7b' :: rest =>
      match room with
      | 0 => syntaxError .tooDeep
      | _ + 1 => do
        let (s, rest) ← match skipSpaces rest with
          | [] => syntaxError .endInObject
          | '"' :: rest => scanString rest
          | '\x7d' :: _ => syntaxError .expectedValue
          | _ => syntaxError .keyNotString
        let x ← tagOf all name s
        let rest ← match skipSpaces (← scanColon rest) with
          | 'n' :: rest => scanWord ['u', 'l', 'l'] rest
          | cs => .error (mismatch "unit" cs)
        match skipSpaces rest with
        | [] => syntaxError .endInObject
        | '\x7d' :: rest => return (x, rest)
        | _ => syntaxError .expectedValue
    | _ => syntaxError .expectedValue

def list (c : Codec α) : Codec (List α) where
  write xs := .array (xs.map c.write)
  ofValue
    | .array vs => vs.mapM c.ofValue
    | v => .error (.wrongType v.found "a sequence")
  scan room cs :=
    match skipSpaces cs with
    | '[' :: rest =>
      match room with
      | 0 => syntaxError .tooDeep
      | room + 1 => scanItems (c.scan room) (rest.length + 1) true rest
    | cs => .error (mismatch "a sequence" cs)

/-- Files the members of an object one after the other. -/
def fileMembers (c : Codec α) (d : Dict α) : List (String × Value) → Except ReadError (Dict α)
  | [] => .ok d
  | (k, v) :: ms => do fileMembers c (d.insert k (← c.ofValue v)) ms

/-- An object with free names. -/
def dict (c : Codec α) : Codec (Dict α) where
  write d := .object (d.entries.map fun e => (e.1, c.write e.2))
  ofValue
    | .object ms => fileMembers c Dict.empty ms
    | v => .error (.wrongType v.found "a map")
  scan room cs :=
    match skipSpaces cs with
    | '\x7b' :: rest =>
      match room with
      | 0 => syntaxError .tooDeep
      | room + 1 => scanMembers (scanEntry (c.scan room)) (rest.length + 1) true Dict.empty rest
    | cs => .error (mismatch "a map" cs)

end Codec

end EventDetection.Json
