import EventDetection.Text.Pieces
import EventDetection.Url.Percent

/-!
# Internet addresses

A host may be an address of four bytes, written as up to four numbers with dots between
them, or one of eight words, written in hexadecimal with colons between them.
-/

namespace EventDetection.Url

/-! ### Four bytes -/

/-- The number that digits to a base stand for. -/
def numberOf? (base : Nat) (cs : List Char) : Option Nat :=
  cs.foldlM (fun n c =>
    match hexValue? c with
    | some d => if d < base then some (base * n + d) else none
    | none => none) 0

/-- A part of an address: hexadecimal behind `0x`, octal behind `0`, or else decimal. -/
def addressPart? : List Char → Option Nat
  | [] => none
  | ['0'] => some 0
  | '0' :: 'x' :: cs | '0' :: 'X' :: cs => numberOf? 16 cs
  | '0' :: cs => numberOf? 8 cs
  | cs => numberOf? 10 cs

/-- The parts between the dots; a dot at the end is passed over. -/
def addressParts (cs : List Char) : List (List Char) :=
  let parts := Text.pieces '.' cs
  if 1 < parts.length ∧ parts.getLast? = some [] then parts.dropLast else parts

/-- A name whose last part is a number is meant as an address. -/
def endsInNumber (cs : List Char) : Bool :=
  match (addressParts cs).getLast? with
  | none | some [] => false
  | some part => part.all Char.isDigit || (addressPart? part).isSome

/-- The address of the parts: all but the last are bytes, the last fills what is left. -/
def joinParts? : (place : Nat) → List Nat → Option Nat
  | _, [] => none
  | place, [n] => if n < Nat.pow 256 (place + 1) then some n else none
  | 0, _ :: _ :: _ => none
  | place + 1, n :: ns => do
    let low ← joinParts? place ns
    if n < 256 then some (n * Nat.pow 256 (place + 1) + low) else none

def parseFourBytes? (cs : List Char) : Option UInt32 := do
  let numbers ← (addressParts cs).mapM addressPart?
  (joinParts? 3 numbers).map UInt32.ofNat

def fourBytesText (a : UInt32) : List Char :=
  let byte (n : Nat) : List Char := Nat.toDigits 10 (a.toNat / Nat.pow 256 n % 256)
  byte 3 ++ '.' :: byte 2 ++ '.' :: byte 1 ++ '.' :: byte 0

/-! ### Eight words -/

/-- Four decimal bytes with dots between them, without leading zeros, as two words. -/
def wordsOfBytes? (cs : List Char) : Option (List Nat) := do
  let byte (cs : List Char) : Option Nat := do
    let n ← if cs.isEmpty ∨ (cs.head? = some '0' ∧ 1 < cs.length) then none else numberOf? 10 cs
    if n < 256 then some n else none
  match ← (Text.pieces '.' cs).mapM byte with
  | [a, b, c, d] => some [256 * a + b, 256 * c + d]
  | _ => none

/-- One word of at most four hexadecimal digits. -/
def word? (cs : List Char) : Option Nat :=
  if cs.isEmpty ∨ 4 < cs.length then none else numberOf? 16 cs

/-- Words with colons between them.  The last two may be given as four bytes. -/
def words? (last : Bool) : List (List Char) → Option (List Nat)
  | [] => some []
  | [cs] => if last ∧ '.' ∈ cs then wordsOfBytes? cs else (word? cs).map ([·])
  | cs :: css => do return (← word? cs) :: (← words? last css)

/-- The words of a text; none are in an empty one. -/
def wordsOf? (last : Bool) (cs : List Char) : Option (List Nat) :=
  if cs.isEmpty then some [] else words? last (Text.pieces ':' cs)

/-- The text before and behind the first two colons. -/
def splitAtGap (before : List Char) : List Char → Option (List Char × List Char)
  | ':' :: ':' :: cs => some (before.reverse, cs)
  | c :: cs => splitAtGap (c :: before) cs
  | [] => none

/-- Eight words; two colons stand for as many zeros as are missing, and for one at least. -/
def parseEightWords? (cs : List Char) : Option (List UInt16) := do
  let words ← match splitAtGap [] cs with
    | none => do
      let ws ← wordsOf? true cs
      if ws.length = 8 then some ws else none
    | some (before, behind) => do
      let before ← wordsOf? false before
      let behind ← wordsOf? true behind
      if before.length + behind.length < 8 then
        some (before ++ List.replicate (8 - before.length - behind.length) 0 ++ behind)
      else none
  return words.map UInt16.ofNat

/-- The number of zeros that a list starts with. -/
def zeroRun (ws : List UInt16) : Nat := (ws.takeWhile (· = 0)).length

/-- The start and the length of the first longest run of zeros. -/
def longestRun (ws : List UInt16) : Nat × Nat :=
  (List.range ws.length).foldl (fun best i =>
    if best.2 < zeroRun (ws.drop i) then (i, zeroRun (ws.drop i)) else best) (0, 0)

def wordsText (ws : List UInt16) : List Char :=
  [':'].intercalate (ws.map fun w => Nat.toDigits 16 w.toNat)

/-- The text of an address; the longest run of two zeros or more is left out. -/
def eightWordsText (ws : List UInt16) : List Char :=
  let (start, length) := longestRun ws
  if length < 2 then wordsText ws
  else wordsText (ws.take start) ++ [':', ':'] ++ wordsText (ws.drop (start + length))

end EventDetection.Url
