/-!
# Percent-encoding

A character that may not stand in a part of a URL is written as the bytes of its UTF-8
form, each as a percent sign with two hexadecimal digits.  Which characters these are
depends on the part.
-/

namespace EventDetection.Url

/-! ### Characters to be encoded -/

/-- Controls, and all characters that are not ASCII. -/
def controlSet (c : Char) : Bool := c.toNat < 0x20 || 0x7E < c.toNat

def fragmentSet (c : Char) : Bool := controlSet c || c ∈ [' ', '"', '<', '>', '\x60']

def querySet (c : Char) : Bool := controlSet c || c ∈ [' ', '"', '#', '<', '>']

/-- In the schemes of the web a quote is encoded in a query as well. -/
def specialQuerySet (c : Char) : Bool := querySet c || c = '\''

def pathSet (c : Char) : Bool :=
  fragmentSet c || c ∈ ['#', '?', '\x7b', '\x7d']

def userinfoSet (c : Char) : Bool :=
  pathSet c || c ∈ ['/', ':', ';', '=', '@', '[', '\\', ']', '^', '|']

/-! ### Encoding and decoding -/

/-- A hexadecimal digit, in capitals. -/
def hexDigit (n : Nat) : Char := (Nat.digitChar n).toUpper

def encodeByte (b : UInt8) : List Char :=
  ['%', hexDigit (b.toNat / 16), hexDigit (b.toNat % 16)]

/-- The text with the characters of a set encoded. -/
def encode (set : Char → Bool) (cs : List Char) : List Char :=
  cs.flatMap fun c => if set c then (String.utf8EncodeChar c).flatMap encodeByte else [c]

/-- The value of a hexadecimal digit. -/
def hexValue? (c : Char) : Option Nat :=
  if c.isDigit then some (c.toNat - 48)
  else if 'a' ≤ c ∧ c ≤ 'f' then some (c.toNat - 87)
  else if 'A' ≤ c ∧ c ≤ 'F' then some (c.toNat - 55)
  else none

/-- The bytes of a text, with those that are encoded in it. -/
def decode : List Char → List UInt8
  | '%' :: a :: b :: cs =>
    match hexValue? a, hexValue? b with
    | some x, some y => UInt8.ofNat (16 * x + y) :: decode cs
    | _, _ => 0x25 :: decode (a :: b :: cs)
  | c :: cs => String.utf8EncodeChar c ++ decode cs
  | [] => []

/-- The text of its percent-encoded form, if the bytes are one. -/
def decodeText? (cs : List Char) : Option (List Char) :=
  (String.fromUTF8? ⟨(decode cs).toArray⟩).map String.toList

end EventDetection.Url
