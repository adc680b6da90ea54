/-!
# Punycode

Labels of host names are written in ASCII.  The other characters of a label are listed
behind it in the order of their code points, each as the distance from the one before
it, in digits to the base 36 whose weights adapt to the distances.

* `Punycode.encode`: the ASCII form of a label.
* `Punycode.decode?`: the label of an ASCII form.
-/

namespace EventDetection.Url.Punycode

/-- A digit to the base 36: letters first, then decimal digits. -/
def digit (d : Nat) : Char := if d < 26 then Char.ofNat (0x61 + d) else Char.ofNat (0x30 + d - 26)

/-- The threshold of a digit at place `k`. -/
def threshold (k bias : Nat) : Nat :=
  if k ≤ bias then 1 else if bias + 26 ≤ k then 26 else k - bias

theorem threshold_pos (k bias : Nat) : 1 ≤ threshold k bias := by
  grind [threshold]

/-- How often a distance is divided, with what is left of it. -/
def shrink (delta k : Nat) : Nat × Nat :=
  if 455 < delta then shrink (delta / 35) (k + 36) else (delta, k)
termination_by delta
decreasing_by exact Nat.div_lt_self (by omega) (by omega)

/-- The bias behind a distance, when `count` characters are written. -/
def adapt (delta count : Nat) (first : Bool) : Nat :=
  let delta := if first then delta / 700 else delta / 2
  let (delta, k) := shrink (delta + delta / count) 0
  k + 36 * delta / (delta + 38)

/-! ### Writing -/

/-- The digits of a distance. -/
def distance (bias k q : Nat) : List Char :=
  let t := threshold k bias
  if q < t then [digit q]
  else digit (t + (q - t) % (36 - t)) :: distance bias (k + 36) ((q - t) / (36 - t))
termination_by q
decreasing_by
  have := threshold_pos k bias
  exact Nat.lt_of_le_of_lt (Nat.div_le_self _ _) (by omega)

/-- What is written so far. -/
structure State where
  out : List Char
  delta : Nat
  bias : Nat
  /-- the number of characters that are written -/
  written : Nat

/-- Passes over a character of the label when those of code point `m` are written. -/
def State.pass (basic m : Nat) (s : State) (c : Char) : State :=
  if c.toNat < m then { s with delta := s.delta + 1 }
  else if c.toNat = m then
    { out := s.out ++ distance s.bias 36 s.delta
      delta := 0
      bias := adapt s.delta (s.written + 1) (s.written = basic)
      written := s.written + 1 }
  else s

/-- Writes the characters of the given code points, in their order. -/
def State.write (label : List Char) (basic : Nat) : (codes : List Nat) → Nat → State → State
  | [], _, s => s
  | m :: ms, n, s =>
    let delta := s.delta + (m - n) * (s.written + 1)
    let s := label.foldl (State.pass basic m) { s with delta }
    State.write label basic ms (m + 1) { s with delta := s.delta + 1 }

/-- The ASCII form of a label, without the mark in front of it. -/
def encode (label : List Char) : List Char :=
  let ascii := label.filter (·.toNat < 0x80)
  let codes := ((label.map Char.toNat).filter (0x80 ≤ ·)).mergeSort.eraseDups
  let s := State.write label ascii.length codes 0x80 ⟨[], 0, 72, ascii.length⟩
  (if ascii.isEmpty then [] else ascii ++ ['-']) ++ s.out

/-! ### Reading -/

/-- The value of a digit; letters may be capitals. -/
def digitValue? (c : Char) : Option Nat :=
  if 'a' ≤ c ∧ c ≤ 'z' then some (c.toNat - 0x61)
  else if 'A' ≤ c ∧ c ≤ 'Z' then some (c.toNat - 0x41)
  else if c.isDigit then some (c.toNat - 0x30 + 26)
  else none

/-- What is read so far. -/
structure Reader where
  out : List Char
  /-- the code point of the last character -/
  code : Nat := 0x80
  /-- the place that the distances lead to -/
  place : Nat := 0
  /-- the place from which the distance starts that is being read -/
  start : Nat := 0
  bias : Nat := 72
  /-- the weight of the next digit, one for the first digit of a distance -/
  weight : Nat := 1
  k : Nat := 36

/-- Puts in a character when its distance is read. -/
def Reader.putIn (r : Reader) : Option Reader :=
  let count := r.out.length + 1
  let code := r.code + r.place / count
  let place := r.place % count
  if code.isValidChar then
    some {
      out := r.out.insertIdx place (Char.ofNat code), code, place := place + 1, start := place + 1
      bias := adapt (r.place - r.start) count (r.start = 0) }
  else none

/-- Reads a digit.  Neither places nor weights may leave a machine word. -/
def Reader.step (r : Reader) (c : Char) : Option Reader := do
  let d ← digitValue? c
  let place := r.place + d * r.weight
  let t := threshold r.k r.bias
  if UInt32.size ≤ place then none
  else if d < t then Reader.putIn { r with place }
  else
    let weight := r.weight * (36 - t)
    if UInt32.size ≤ weight then none else some { r with place, weight, k := r.k + 36 }

/-- The text before the last hyphen, and what follows the hyphen; a hyphen at the start does
not count. -/
def splitAscii (cs : List Char) : List Char × List Char :=
  match cs.reverse.dropWhile (· ≠ '-') with
  | [] | [_] => ([], cs)
  | _ :: before => (before.reverse, cs.drop (before.length + 1))

/-- The label whose ASCII form is given, without the mark in front of it. -/
def decode? (cs : List Char) : Option (List Char) := do
  let (ascii, digits) := splitAscii cs
  let r ← digits.foldlM Reader.step { out := ascii }
  if r.weight = 1 then some r.out else none

end EventDetection.Url.Punycode
