/-!
# Shortest decimals

A positive number `m * 2 ^ q`, rounded to `m` with its neighbours, is told from
all others by a short run of decimal digits.  `shortest` finds the fewest that
read back as the number, and of these the nearest.

The interval of the numbers that are rounded to `m * 2 ^ q` is kept in quarters of
`2 ^ q`: it ends half a step above and half a step below, or a quarter step below
where the next smaller number lies nearer.
-/

namespace EventDetection.Decimal

/-- A decimal `digits * 10 ^ exponent`. -/
structure Scaled where
  digits : Nat
  exponent : Int
deriving DecidableEq

/-- A binary number with the interval that is rounded to it: `value`, `low` and `high`
count quarters of `2 ^ exponent`, and the ends belong to it or not. -/
structure Rounding where
  value : Nat
  low : Nat
  high : Nat
  exponent : Int
  closed : Bool

/-- The numerator and the denominator of `n` quarters of `2 ^ q`. -/
def Rounding.fraction (r : Rounding) (n : Nat) : Nat × Nat :=
  match r.exponent - 2 with
  | .ofNat k => (n * Nat.pow 2 k, 1)
  | .negSucc k => (n, Nat.pow 2 (k + 1))

/-- Whether `num / den` is rounded to the number. -/
def Rounding.covers (r : Rounding) (num den : Nat) : Bool :=
  let (ln, ld) := r.fraction r.low
  let (hn, hd) := r.fraction r.high
  if r.closed then ln * den ≤ num * ld && num * hd ≤ hn * den
  else ln * den < num * ld && num * hd < hn * den

/-- The number of decimal digits of `n`. -/
def width (n : Nat) : Nat := (Nat.toDigits 10 n).length

/-- The exponent of the leading decimal digit of `num / den`, given that `num` is not zero. -/
def leadingExponent (num den : Nat) : Int :=
  if den ≤ num then (width (num / den) : Int) - 1
  else
    let guess := width (den / num)
    if den ≤ num * Nat.pow 10 (guess - 1) then 1 - (guess : Int) else -(guess : Int)

/-- Leaves out the zeros at the end of the digits. -/
def Scaled.dropZeros : (fuel : Nat) → Scaled → Scaled
  | 0, d => d
  | fuel + 1, d =>
    if d.digits % 10 = 0 then dropZeros fuel ⟨d.digits / 10, d.exponent + 1⟩ else d

/-- The nearer of the two decimals next to the number on the grid `10 ^ exponent` that is
rounded to it; of two equally near ones the one with the even last digit. -/
def onGrid? (r : Rounding) (exponent : Int) : Option Scaled :=
  let (num, den) := r.fraction r.value
  -- the number in steps of the grid is `n / d`
  let (n, d, up) : Nat × Nat × Nat := match exponent with
    | .ofNat k => (num, den * Nat.pow 10 k, Nat.pow 10 k)
    | .negSucc k => (num * Nat.pow 10 (k + 1), den, 1)
  let down := match exponent with
    | .ofNat _ => 1
    | .negSucc k => Nat.pow 10 (k + 1)
  let below := n / d
  let covered := fun g => r.covers (g * up) down
  let twiceRest := 2 * (n % d)
  let first := if twiceRest < d || twiceRest = d && below % 2 = 0 then below else below + 1
  let second := if first = below then below + 1 else below
  if covered first then some ⟨first, exponent⟩
  else if covered second then some ⟨second, exponent⟩
  else none

/-- The first hit on the grids with `count` digits and more. -/
def shortestFrom (r : Rounding) (leading : Int) : (fuel count : Nat) → Scaled
  | 0, count => (onGrid? r (leading - count + 1)).getD ⟨0, 0⟩
  | fuel + 1, count =>
    match onGrid? r (leading - count + 1) with
    | some d => d
    | none => shortestFrom r leading fuel (count + 1)

/-- The decimal with the fewest digits that is rounded to the number. -/
def shortest (r : Rounding) : Scaled :=
  let (num, den) := r.fraction r.value
  (shortestFrom r (leadingExponent num den) 17 1).dropZeros 20

end EventDetection.Decimal
