import EntityPlan.Json.Token
import EntityPlan.Toml.Moment
import EntityPlan.Toml.Tree

/-! # Scalars — values that are written as one word

    Truth values, whole numbers, numbers with a fraction, dates and times.  An
    underscore may stand between two digits and means nothing; a decimal number has
    no zero in front. -/

namespace EntityPlan.Toml

/-- The digits of a number, with the underscores between them taken away. -/
def digitsOf? (isDigit : Char → Bool) (s : List Char) : Option (List Char) :=
  let groups := Text.pieces '_' s
  if groups.all fun g => !g.isEmpty && g.all isDigit then some groups.flatten else none

/-- The digits of a decimal number without a zero in front. -/
def wholeDigits? (s : List Char) : Option (List Char) :=
  (digitsOf? Char.isDigit s).filter fun ds => ds.head? ≠ some '0' ∨ ds.length = 1

/-- A sign, if there is one, and what follows it. -/
def splitSign (s : List Char) : Bool × List Char :=
  match s with
  | '-' :: rest => (true, rest)
  | '+' :: rest => (false, rest)
  | _ => (false, s)

/-- The number that hexadecimal digits, or ones below, write to a base. -/
def natOfDigits (base : Nat) (ds : List Char) : Nat :=
  ds.foldl (fun n c => base * n + (Json.hexValue? c).getD 0) 0

/-- The value of a whole number; it has at most 128 bits. -/
def wholeNumber (n : Int) : Scalar :=
  if -Int.pow 2 127 ≤ n ∧ n < Int.pow 2 128 then .integer n else .tooLarge

/-- A whole number behind the mark of its base. -/
def based? (base : Nat) (s : List Char) : Option Scalar :=
  (digitsOf? (fun c => (Json.hexValue? c).any (· < base)) s).map fun ds =>
    wholeNumber (natOfDigits base ds)

/-- A whole number. -/
def integer? (s : List Char) : Option Scalar :=
  match s with
  | '0' :: 'x' :: rest => based? 16 rest
  | '0' :: 'o' :: rest => based? 8 rest
  | '0' :: 'b' :: rest => based? 2 rest
  | _ =>
      let (negative, rest) := splitSign s
      (wholeDigits? rest).map fun ds =>
        let n : Int := natOfDigits 10 ds
        wholeNumber (if negative then -n else n)

/-- The number nearest to `± digits · 10 ^ k`; far outside the doubles no power of ten
    is computed. -/
def realOf (negative : Bool) (digits : List Char) (k : Int) : Scalar :=
  let n := natOfDigits 10 digits
  let top := (Nat.toDigits 10 n).length + k
  if n = 0 ∨ top < -400 then .real (.finite (.zero negative))
  else if 400 < top then .tooLarge
  else
    match Decimal.Double.ofDecimal? negative n k with
    | some d => .real (.finite d)
    | none => .tooLarge

/-- The exponent of a number. -/
def exponent? (s : List Char) : Option Int :=
  let (negative, rest) := splitSign s
  (digitsOf? Char.isDigit rest).map fun ds =>
    let n : Int := natOfDigits 10 ds
    if negative then -n else n

/-- The digits before and behind the point of a number; one that has no point has none
    behind it. -/
def mantissa? (s : List Char) : Option (List Char × List Char) :=
  match Text.pieces '.' s with
  | [whole] => (wholeDigits? whole).map (·, [])
  | [whole, part] => do
      let whole ← wholeDigits? whole
      let part ← digitsOf? Char.isDigit part
      return (whole, part)
  | _ => none

/-- A number with a fraction or an exponent. -/
def real? (s : List Char) : Option Scalar :=
  let (negative, body) := splitSign s
  if body = "inf".toList then some (.real (.infinite negative))
  else if body = "nan".toList then some (.real .notANumber)
  else
    let front := body.takeWhile fun c => c ≠ 'e' ∧ c ≠ 'E'
    match body.drop front.length with
    | [] => (mantissa? front).map fun m =>
        realOf negative (m.1 ++ m.2) (-(m.2.length : Int))
    | _ :: back => do
        let m ← mantissa? front
        let k ← exponent? back
        return realOf negative (m.1 ++ m.2) (k - m.2.length)

/-- The value of a word. -/
def scalar? (word : List Char) : Option Scalar :=
  if word = "true".toList then some (.boolean true)
  else if word = "false".toList then some (.boolean false)
  else
    match moment? word with
    | some text => some (.moment text)
    | none =>
        match integer? word with
        | some n => some n
        | none => real? word

/-- A character of a word. -/
def isWord (c : Char) : Bool := c.isAlphanum || ['_', '+', '-', '.', ':'].contains c

/-- The word that starts here, and what stands behind it.  A blank belongs to it where
    it stands between a date and a time. -/
def wordHere (s : List Char) : List Char × List Char :=
  let w := s.takeWhile isWord
  let rest := s.drop w.length
  match rest with
  | ' ' :: c :: _ =>
      if c.isDigit ∧ (date w).any (·.2.isEmpty) then
        let v := (rest.drop 1).takeWhile isWord
        (w ++ ' ' :: v, rest.drop (v.length + 1))
      else (w, rest)
  | _ => (w, rest)

end EntityPlan.Toml
