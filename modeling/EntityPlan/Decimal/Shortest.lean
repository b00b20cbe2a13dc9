import EntityPlan.Decimal.Double

/-! # Shortest decimals — the fewest digits that read back

    The reals nearer to a double than to any other form an interval, its ends
    included when the significand is even.  For one digit, two digits, and so on,
    the two neighbours of the value on that decimal grid are tried; the first grid
    with a neighbour inside the interval gives the digits, the nearer neighbour
    winning and a tie going to the even one. -/

namespace EntityPlan.Decimal

/-- A decimal number: the digits as one whole number, times a power of ten. -/
structure Scaled where
  digits : Nat
  exponent : Int
  deriving DecidableEq, Repr, Inhabited

/-- The number of decimal digits. -/
def digitCount (n : Nat) : Nat := (Nat.toDigits 10 n).length

/-- The whole `k` with `10 ^ k ≤ num / den < 10 ^ (k + 1)`. -/
def magnitude (num den : Nat) : Int :=
  if den ≤ num then (digitCount (num / den) : Int) - 1
  else -(digitCount ((den + num - 1) / num - 1) : Int)

/-- The reals that round to a double, in quarters of a unit of its last digit:
    `lower`, `value` and `upper` over a common divisor. -/
structure Interval where
  lower : Nat
  value : Nat
  upper : Nat
  divisor : Nat
  closed : Bool

/-- The interval of a positive double. -/
def Interval.ofDouble (d : Double) : Interval :=
  let below := if d.significand = Nat.pow 2 52 ∧ -1074 < d.exponent then 1 else 2
  let m := 4 * d.significand
  let closed := d.significand % 2 == 0
  if 0 ≤ d.exponent then
    let s := Nat.pow 2 d.exponent.toNat
    ⟨(m - below) * s, m * s, (m + 2) * s, 4, closed⟩
  else ⟨m - below, m, m + 2, 4 * Nat.pow 2 (-d.exponent).toNat, closed⟩

/-- `n · 10 ^ k` as a quotient of whole numbers. -/
def powerQuotient (n : Nat) (k : Int) : Nat × Nat :=
  if 0 ≤ k then (n * Nat.pow 10 k.toNat, 1) else (n, Nat.pow 10 (-k).toNat)

/-- The decimal lies inside the interval. -/
def Interval.holds (i : Interval) (n : Nat) (k : Int) : Bool :=
  let (a, b) := powerQuotient n k
  let x := a * i.divisor
  if i.closed then decide (i.lower * b ≤ x) && decide (x ≤ i.upper * b)
  else decide (i.lower * b < x) && decide (x < i.upper * b)

/-- The neighbours of the value on the grid of `10 ^ k` that lie inside, the nearer one. -/
def Interval.neighbour? (i : Interval) (k : Int) : Option Nat :=
  let (num, den) :=
    if 0 ≤ k then (i.value, i.divisor * Nat.pow 10 k.toNat)
    else (i.value * Nat.pow 10 (-k).toNat, i.divisor)
  let low := num / den
  match i.holds low k, i.holds (low + 1) k with
  | true, true => some (roundDiv num den)
  | true, false => some low
  | false, true => some (low + 1)
  | false, false => none

/-- Trailing zeros moved into the exponent. -/
def Scaled.strip : Nat → Scaled → Scaled
  | 0, d => d
  | n + 1, d =>
      if d.digits % 10 = 0 ∧ d.digits ≠ 0 then strip n ⟨d.digits / 10, d.exponent + 1⟩ else d

/-- The shortest decimal of a positive double that reads back. -/
def shortest (d : Double) : Scaled :=
  let i := Interval.ofDouble d
  let top := magnitude i.value i.divisor
  let found := (List.range 17).findSome? fun (n : Nat) =>
    (i.neighbour? (top - n)).map fun digits => Scaled.mk digits (top - n)
  (found.getD ⟨0, 0⟩).strip 20

end EntityPlan.Decimal
