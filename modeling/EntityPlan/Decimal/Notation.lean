import EntityPlan.Decimal.Shortest

/-! # Decimal notation — how a double is written

    The digits are those of the shortest decimal that reads back.  A notation says
    for which powers of ten they are written positionally; a positional number
    always has a fraction part, and any other has an exponent with its sign. -/

namespace EntityPlan.Decimal

/-- The powers of ten, of the leading digit, that are written positionally. -/
structure Notation where
  positional : Int → Bool

/-- Positional from `0.00001` up to sixteen digits before the point. -/
def Notation.compact : Notation := ⟨fun k => decide (-5 ≤ k) && decide (k ≤ 15)⟩

/-- Positional at any size. -/
def Notation.plain : Notation := ⟨fun _ => true⟩

/-- The digits with the point behind the `left`-th of them and a fraction part. -/
def placePoint (digits : List Char) (left : Int) : List Char :=
  if left ≤ 0 then ['0', '.'] ++ List.replicate (-left).toNat '0' ++ digits
  else
    let n := left.toNat
    if digits.length ≤ n then digits ++ List.replicate (n - digits.length) '0' ++ ['.', '0']
    else digits.take n ++ ['.'] ++ digits.drop n

/-- The digits with the point behind the first of them, no point for a single digit. -/
def withExponent (digits : List Char) (k : Int) : List Char :=
  let mantissa :=
    match digits with
    | [] => []
    | [d] => [d]
    | d :: rest => d :: '.' :: rest
  mantissa ++ ['e', if k < 0 then '-' else '+'] ++ Nat.toDigits 10 k.natAbs

/-- The text of a double. -/
def Notation.write (style : Notation) (d : Double) : String :=
  let sign := if d.negative then ['-'] else []
  if d.isZero then String.ofList (sign ++ ['0', '.', '0'])
  else
    let s := shortest d
    let digits := Nat.toDigits 10 s.digits
    let k := s.exponent + digits.length - 1
    String.ofList (sign ++
      if style.positional k then placePoint digits (k + 1) else withExponent digits k)

end EntityPlan.Decimal
