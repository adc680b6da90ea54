import EventDetection.Json.Codec

/-!
# Records

A record declares its members once (`Fields`), and from the declaration it is written
and read.  Members may be left out when they are written, and a missing member may
stand for a default value.

* `Codec.record`: a record that passes over all other members.  It may also be given
  as a list of its members in the order of their declaration.
* `Codec.openRecord`: a record that keeps all other members.
-/

namespace EventDetection.Json

/-- One declared member of a record. -/
structure Field (α : Type) where
  name : String
  codec : Codec α
  /-- what a missing member stands for -/
  default? : Option α := none
  /-- the values that are left out when the record is written -/
  omitted : α → Bool := fun _ => false

/-- The declared members of a record, in order.  Their values form a tuple of type `σ`. -/
inductive Fields : Type → Type 1
  | nil : Fields Unit
  | cons {α σ : Type} (field : Field α) (rest : Fields σ) : Fields (α × σ)

namespace Fields

/-- A member that must be given. -/
def required {α σ : Type} (name : String) (codec : Codec α) (rest : Fields σ) : Fields (α × σ) :=
  .cons { name, codec } rest

/-- A member that may be missing. -/
def withDefault {α σ : Type} (name : String) (codec : Codec α) (default : α) (rest : Fields σ) :
    Fields (α × σ) :=
  .cons { name, codec, default? := some default } rest

/-- A member that may be missing or null, and that is left out when it has no value. -/
def omissible {α σ : Type} (name : String) (codec : Codec α) (rest : Fields σ) :
    Fields (Option α × σ) :=
  .cons { name, codec := codec.optional, default? := some none, omitted := Option.isNone } rest

def names : {σ : Type} → Fields σ → List String
  | _, .nil => []
  | _, .cons f rest => f.name :: rest.names

/-- The members that are written. -/
def write : {σ : Type} → Fields σ → σ → List (String × Value)
  | _, .nil, _ => []
  | _, .cons f rest, (x, xs) =>
    if f.omitted x then rest.write xs else (f.name, f.codec.write x) :: rest.write xs

/-! ### Reading members by name -/

/-- The members that were read so far. -/
def Draft : {σ : Type} → Fields σ → Type
  | _, .nil => Unit
  | _, .cons (α := α) _ rest => Option α × rest.Draft

/-- No member was read yet. -/
def blank : {σ : Type} → (fs : Fields σ) → fs.Draft
  | _, .nil => ()
  | _, .cons _ rest => (none, rest.blank)

/-- Reads the member of the given name, if it is declared.  It must not have been read
before. -/
def fill {ρ : Type} (name : String)
    (read : {α : Type} → Codec α → Except ReadError (α × ρ)) :
    {σ : Type} → (fs : Fields σ) → fs.Draft → Option (Except ReadError (fs.Draft × ρ))
  | _, .nil, _ => none
  | _, .cons (α := α) f rest, draft =>
    let (x, d) : Option α × rest.Draft := draft
    if name = f.name then
      some (match x with
        | some _ => .error (.duplicateField name)
        | none => (read f.codec).map fun r => ((some r.1, d), r.2))
    else (rest.fill name read d).map fun e => e.map fun r => ((x, r.1), r.2)

/-- The values of all members, once every member was met. -/
def finish : {σ : Type} → (fs : Fields σ) → fs.Draft → Except ReadError σ
  | _, .nil, _ => .ok ()
  | _, .cons (α := α) f rest, draft =>
    let (x, d) : Option α × rest.Draft := draft
    match x.or f.default? with
    | some y => (rest.finish d).map fun ys => (y, ys)
    | none => .error (.missingField f.name)

/-! ### Reading members by position -/

/-- Reads the members from a list of values. -/
def ofItems (expected : String) :
    {σ : Type} → (fs : Fields σ) → (position : Nat) → List Value →
      Except ReadError (σ × List Value)
  | _, .nil, _, vs => .ok ((), vs)
  | _, .cons f rest, position, [] =>
    match f.default? with
    | some y => (rest.ofItems expected (position + 1) []).map fun r => ((y, r.1), r.2)
    | none => .error (.wrongLength position expected)
  | _, .cons f rest, position, v :: vs => do
    let y ← f.codec.ofValue v
    (rest.ofItems expected (position + 1) vs).map fun r => ((y, r.1), r.2)

/-- Reads the members from the items of a list. -/
def scanPositions (expected : String) (room : Nat) :
    {σ : Type} → (fs : Fields σ) → (position : Nat) → List Char →
      Except ReadError (σ × List Char)
  | _, .nil, _, cs => .ok ((), cs)
  | _, .cons f rest, position, cs =>
    match skipSpaces cs with
    | [] => syntaxError .endInList
    | ']' :: _ =>
      match f.default? with
      | some y => (rest.scanPositions expected room (position + 1) cs).map fun r => ((y, r.1), r.2)
      | none => .error (.wrongLength position expected)
    | cs => do
      let (y, cs) ← f.codec.scan room (← nextItem (position = 0) cs)
      (rest.scanPositions expected room (position + 1) cs).map fun r => ((y, r.1), r.2)

/-- The closing bracket of a list whose items were read. -/
def scanListEnd (cs : List Char) : Except ReadError (List Char) :=
  match skipSpaces cs with
  | [] => syntaxError .endInList
  | ']' :: rest => .ok rest
  | ',' :: rest =>
    match skipSpaces rest with
    | ']' :: _ => syntaxError .trailingComma
    | _ => syntaxError .trailingCharacters
  | _ => syntaxError .trailingCharacters

end Fields

namespace Codec

variable {σ : Type}

/-- How a record is called in messages. -/
def recordName (name : String) : String := "struct " ++ name

/-- What is said of a list that is too short for a record. -/
def recordLength (name : String) (fs : Fields σ) : String :=
  recordName name ++ " with " ++ toString fs.names.length ++
    (if fs.names.length = 1 then " element" else " elements")

/-- Reads the declared members among those of an object. -/
def fillMembers (fs : Fields σ) :
    fs.Draft → List (String × Value) → Except ReadError fs.Draft
  | d, [] => .ok d
  | d, (name, v) :: ms =>
    match fs.fill name (fun c => (c.ofValue v).map fun x => (x, ())) d with
    | some r => do fillMembers fs (← r).1 ms
    | none => fillMembers fs d ms

/-- A record with the declared members only. -/
def record (name : String) (fs : Fields σ) : Codec σ where
  write x := .object (fs.write x)
  ofValue
    | .object ms => fillMembers fs fs.blank ms >>= fs.finish
    | .array vs => do
      let (x, left) ← fs.ofItems (recordLength name fs) 0 vs
      if left.isEmpty then .ok x
      else .error (.wrongLength vs.length "fewer elements in array")
    | v => .error (.wrongType v.found (recordName name))
  scan room cs :=
    match skipSpaces cs with
    | '\x7b' :: rest =>
      match room with
      | 0 => syntaxError .tooDeep
      | room + 1 => do
        let member (name : String) (d : fs.Draft) (cs : List Char) :=
          match fs.fill name (fun c => scanColon cs >>= c.scan room) d with
          | some r => r
          | none => do return (d, ← skipValue (← scanColon cs))
        let (d, rest) ← scanMembers member (rest.length + 1) true fs.blank rest
        return (← fs.finish d, rest)
    | '[' :: rest =>
      match room with
      | 0 => syntaxError .tooDeep
      | room + 1 => do
        let (x, rest) ← fs.scanPositions (recordLength name fs) room 0 rest
        return (x, ← Fields.scanListEnd rest)
    | cs => .error (mismatch (recordName name) cs)

/-- Reads the declared members among those of an object, and keeps the others. -/
def fillOpenMembers (fs : Fields σ) :
    fs.Draft × Dict Value → List (String × Value) → Except ReadError (fs.Draft × Dict Value)
  | d, [] => .ok d
  | (d, others), (name, v) :: ms =>
    match fs.fill name (fun c => (c.ofValue v).map fun x => (x, ())) d with
    | some r => do fillOpenMembers fs ((← r).1, others) ms
    | none => fillOpenMembers fs (d, others.insert name v) ms

/-- A record with the declared members and any others. -/
def openRecord (name : String) (fs : Fields σ) : Codec (σ × Dict Value) where
  write x := .object (fs.write x.1 ++ x.2.entries)
  ofValue
    | .object ms => do
      let (d, others) ← fillOpenMembers fs (fs.blank, Dict.empty) ms
      return (← fs.finish d, others)
    | v => .error (.wrongType v.found (recordName name))
  scan room cs :=
    match skipSpaces cs with
    | '\x7b' :: rest =>
      match room with
      | 0 => syntaxError .tooDeep
      | room + 1 => do
        let member (name : String) (s : fs.Draft × Dict Value) (cs : List Char) :=
          match fs.fill name (fun c => scanColon cs >>= c.scan room) s.1 with
          | some r => r.map fun r => ((r.1, s.2), r.2)
          | none =>
            (scanEntry (scanValue room) name s.2 cs).map fun r => ((s.1, r.1), r.2)
        let ((d, others), rest) ←
          scanMembers member (rest.length + 1) true (fs.blank, Dict.empty) rest
        return ((← fs.finish d, others), rest)
    | cs => .error (mismatch (recordName name) cs)

end Codec

end EventDetection.Json
