/-! # Doubles — numbers of fifty-three binary digits

    A double is `± significand · 2 ^ exponent` with a significand below `2 ^ 53`
    and an exponent between `-1074` and `971`.  Every operation is exact arithmetic
    on whole numbers followed by one rounding to the nearest double, a half going
    to the even significand; a result too large for a double has no value. -/

namespace EntityPlan.Decimal

/-- A finite number of binary floating point. -/
structure Double where
  negative : Bool
  significand : Nat
  exponent : Int
  deriving DecidableEq, Repr, Inhabited

/-- The quotient as a whole number, a half going to the even neighbour. -/
def roundDiv (num den : Nat) : Nat :=
  let q := num / den
  let r := num % den
  if 2 * r < den then q else if den < 2 * r then q + 1 else q + q % 2

namespace Double

/-- `num / den` divided by `2 ^ e`, as a quotient of whole numbers. -/
def scaleDown (num den : Nat) (e : Int) : Nat × Nat :=
  if 0 ≤ e then (num, den * Nat.pow 2 e.toNat) else (num * Nat.pow 2 (-e).toNat, den)

/-- The exponent at which the quotient has fifty-three binary digits, or the least
    exponent if it is too small for that. -/
def exponentOf (num den : Nat) : Int :=
  let e := (num.log2 : Int) - (den.log2 : Int) - 52
  let q := scaleDown num den e
  max (-1074) (if q.1 < q.2 * Nat.pow 2 52 then e - 1 else e)

/-- The double nearest to `num / den`, with the given sign. -/
def nearest? (negative : Bool) (num den : Nat) : Option Double :=
  let e := exponentOf num den
  let q := scaleDown num den e
  let m := roundDiv q.1 q.2
  let (m, e) := if m = Nat.pow 2 53 then (Nat.pow 2 52, e + 1) else (m, e)
  if 971 < e then none else some ⟨negative, m, e⟩

/-- Zero with a sign. -/
def zero (negative : Bool) : Double := ⟨negative, 0, -1074⟩

def isZero (d : Double) : Bool := d.significand == 0

/-- The magnitude as a quotient of whole numbers. -/
def quotient (d : Double) : Nat × Nat :=
  if 0 ≤ d.exponent then (d.significand * Nat.pow 2 d.exponent.toNat, 1)
  else (d.significand, Nat.pow 2 (-d.exponent).toNat)

/-- The double nearest to a whole number. -/
def ofNat? (negative : Bool) (n : Nat) : Option Double :=
  if n = 0 then some (zero negative) else nearest? negative n 1

/-- The product or quotient with the double nearest to `10 ^ k`, rounded once more. -/
def timesPower? (d : Double) (k : Nat) (divide : Bool) : Option Double := do
  let p ← ofNat? false (Nat.pow 10 k)
  if d.isZero then return d
  let (a, b) := d.quotient
  let (n, m) := p.quotient
  if divide then nearest? d.negative (a * m) (b * n) else nearest? d.negative (a * n) (b * m)

/-- The largest power of ten that is a double. -/
def widest : Nat := 308

/-- The double divided by `10 ^ 308`, `n` times; zero stays zero. -/
def divideWidest? : Nat → Double → Option Double
  | 0, d => some d
  | n + 1, d => if d.isZero then some d else (d.timesPower? widest true).bind (divideWidest? n)

/-- The double scaled by `10 ^ k`, one power of at most `10 ^ 308` at a time. -/
def scale? (d : Double) (k : Int) : Option Double :=
  let n := k.natAbs
  if n ≤ widest then d.timesPower? n (k < 0)
  else if d.isZero then some d
  else if 0 ≤ k then none
  else
    let steps := (n - 1) / widest
    (divideWidest? steps d).bind fun d' => d'.timesPower? (n - steps * widest) true

/-- The double nearest to `significand · 10 ^ k`, rounded once. -/
def ofDecimal? (negative : Bool) (significand : Nat) (k : Int) : Option Double :=
  if significand = 0 then some (zero negative)
  else if 0 ≤ k then nearest? negative (significand * Nat.pow 10 k.toNat) 1
  else nearest? negative significand (Nat.pow 10 (-k).toNat)

end Double

end EntityPlan.Decimal
