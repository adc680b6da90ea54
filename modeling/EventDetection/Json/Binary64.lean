import EventDetection.Decimal.Shortest

/-!
# Numbers that are no integers

JSON numbers with a fraction or an exponent, and integers that fit no machine
word, are kept as 64-bit floating point numbers.

* `Binary64.ofParts?`: a number text is read in two roundings.  Its digits are
  rounded to a floating point number, which is then multiplied or divided by a
  power of ten.
* `Binary64.text`: it is written with the fewest digits that read back.
-/

namespace EventDetection.Json

open Decimal (Rounding shortest)

/-- A 64-bit floating point number, as its bits. -/
structure Binary64 where
  bits : UInt64
deriving DecidableEq, Inhabited

namespace Binary64

def ofFloat (x : Float) : Binary64 := ⟨x.toBits⟩

def toFloat (x : Binary64) : Float := Float.ofBits x.bits

/-! ### Reading -/

/-- `x / 10 ^ n`, in steps of `10 ^ 308` as long as the power is no floating point number. -/
def divideByPower (x : Float) (n : Nat) : Float :=
  if n ≤ 308 then x / Float.ofScientific 1 false n
  else if x == 0 then x
  else divideByPower (x / Float.ofScientific 1 false 308) (n - 308)
termination_by n

/-- `significand * 10 ^ exponent`, negated unless `positive`; nothing if it is too large. -/
def ofParts? (positive : Bool) (significand : UInt64) (exponent : Int) : Option Binary64 :=
  let x := significand.toFloat
  let scaled : Option Float := match exponent with
    | .ofNat n =>
      if n ≤ 308 then
        let y := x * Float.ofScientific 1 false n
        if y.isInf then none else some y
      else if x == 0 then some x else none
    | .negSucc n => some (divideByPower x (n + 1))
  scaled.map fun y => ofFloat (if positive then y else -y)

/-- Zero, with its sign. -/
def zero (positive : Bool) : Binary64 := ofFloat (if positive then 0.0 else -0.0)

/-! ### Writing -/

def isNegative (x : Binary64) : Bool := x.bits >>> 63 = 1

/-- The bits of the exponent. -/
def exponentBits (x : Binary64) : Nat := ((x.bits >>> 52) &&& 0x7FF).toNat

/-- The bits of the fraction. -/
def fractionBits (x : Binary64) : Nat := (x.bits &&& 0xFFFFFFFFFFFFF).toNat

/-- The interval of the numbers that are rounded to the size of `x`. -/
def rounding (x : Binary64) : Rounding :=
  let e := x.exponentBits
  let m := if e = 0 then x.fractionBits else x.fractionBits + 0x10000000000000
  let q : Int := (if e = 0 then 1 else e) - 1075
  let narrow : Bool := x.fractionBits = 0 && 1 < e
  { value := 4 * m, low := if narrow then 4 * m - 1 else 4 * m - 2, high := 4 * m + 2,
    exponent := q, closed := m % 2 = 0 }

/-- Digits with a point, or with a signed exponent.  The point is written as
long as the leading digit stands at most sixteen places before and at most five behind it. -/
def decimalText (digits : List Char) (exponent : Int) : List Char :=
  let point : Int := digits.length + exponent
  if 0 < point && point ≤ 16 then
    let p := point.toNat
    if digits.length ≤ p then
      digits ++ List.replicate (p - digits.length) '0' ++ ['.', '0']
    else digits.take p ++ '.' :: digits.drop p
  else if -5 < point && point ≤ 0 then
    ['0', '.'] ++ List.replicate (-point).toNat '0' ++ digits
  else
    let e := point - 1
    digits.take 1 ++ (if digits.length = 1 then [] else '.' :: digits.drop 1) ++
      ['e', if e < 0 then '-' else '+'] ++ Nat.toDigits 10 e.natAbs

/-- The text of a finite number. -/
def text (x : Binary64) : List Char :=
  let size :=
    if x.exponentBits = 0 && x.fractionBits = 0 then ['0', '.', '0']
    else
      let d := shortest x.rounding
      decimalText (Nat.toDigits 10 d.digits) d.exponent
  if x.isNegative then '-' :: size else size

end Binary64

end EventDetection.Json
