import EventDetection.Json.Value

/-!
# Writing JSON

A value is written without blanks (`Value.compact`) or over several lines, indented
by two spaces per level (`Value.pretty`).
-/

namespace EventDetection.Json

/-- The decimal digits of a natural number. -/
def natChars (n : Nat) : List Char := Nat.toDigits 10 n

/-- A character of a text, escaped where JSON asks for it. -/
def escapedChar (c : Char) : List Char :=
  if c = '"' then ['\\', '"']
  else if c = '\\' then ['\\', '\\']
  else if c = '\x08' then ['\\', 'b']
  else if c = '\x0c' then ['\\', 'f']
  else if c = '\n' then ['\\', 'n']
  else if c = '\r' then ['\\', 'r']
  else if c = '\t' then ['\\', 't']
  else if c.toNat < 0x20 then
    ['\\', 'u', '0', '0', Nat.digitChar (c.toNat / 16), Nat.digitChar (c.toNat % 16)]
  else [c]

/-- A text between quotes. -/
def stringChars (s : String) : List Char :=
  '"' :: (s.toList.flatMap escapedChar ++ ['"'])

def Number.chars : Number → List Char
  | .integer (.ofNat n) => natChars n
  | .integer (.negSucc n) => '-' :: natChars (n + 1)
  | .real x => x.text

namespace Value

mutual

/-- The text of a value without blanks. -/
def chars : Value → List Char
  | .null => ['n', 'u', 'l', 'l']
  | .bool true => ['t', 'r', 'u', 'e']
  | .bool false => ['f', 'a', 'l', 's', 'e']
  | .number n => n.chars
  | .string s => stringChars s
  | .array items => '[' :: (itemChars items ++ [']'])
  | .object members => '\x7b' :: (memberChars members ++ ['\x7d'])
termination_by structural v => v

/-- Items, with commas between them. -/
def itemChars : List Value → List Char
  | [] => []
  | [v] => v.chars
  | v :: vs => v.chars ++ ',' :: itemChars vs
termination_by structural vs => vs

/-- Members, with commas between them. -/
def memberChars : List (String × Value) → List Char
  | [] => []
  | [(k, v)] => stringChars k ++ ':' :: v.chars
  | (k, v) :: ms => stringChars k ++ ':' :: (v.chars ++ ',' :: memberChars ms)
termination_by structural ms => ms

end

def compact (v : Value) : String := String.ofList v.chars

/-- A new line, indented. -/
def newLine (level : Nat) : List Char := '\n' :: List.replicate (2 * level) ' '

mutual

/-- The text of a value over several lines, inside of `level` containers. -/
def linesAt (level : Nat) : Value → List Char
  | .array [] => ['[', ']']
  | .array items => '[' :: (itemLines (level + 1) items ++ newLine level ++ [']'])
  | .object [] => ['\x7b', '\x7d']
  | .object members => '\x7b' :: (memberLines (level + 1) members ++ newLine level ++ ['\x7d'])
  | .null => Value.null.chars
  | .bool b => (Value.bool b).chars
  | .number n => n.chars
  | .string s => stringChars s
termination_by structural v => v

/-- Items, each on a line of its own. -/
def itemLines (level : Nat) : List Value → List Char
  | [] => []
  | [v] => newLine level ++ v.linesAt level
  | v :: vs => newLine level ++ v.linesAt level ++ ',' :: itemLines level vs
termination_by structural vs => vs

/-- Members, each on a line of its own. -/
def memberLines (level : Nat) : List (String × Value) → List Char
  | [] => []
  | [(k, v)] => newLine level ++ stringChars k ++ ':' :: ' ' :: v.linesAt level
  | (k, v) :: ms =>
    newLine level ++ stringChars k ++ ':' :: ' ' :: (v.linesAt level ++ ',' :: memberLines level ms)
termination_by structural ms => ms

end

def pretty (v : Value) : String := String.ofList (v.linesAt 0)

end Value

end EventDetection.Json
