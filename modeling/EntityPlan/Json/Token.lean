import EntityPlan.Json.Value
import EntityPlan.Problem

/-! # Tokens of a JSON text — blanks, words, strings and numerals

    Each function here takes the characters from the place where a token starts
    and returns the token with the characters behind it.  Strings are read in two
    ways: a string that is used must pair its surrogates, one that is skipped is
    held to the grammar alone.  Numerals likewise have their value only when used. -/

namespace EntityPlan.Json

/-- The result of reading a token: its value and the characters behind it. -/
abbrev Step (α : Type) := Except Problem (α × List Char)

/-- Space, tab, line feed and carriage return. -/
def isSpace (c : Char) : Bool := c == ' ' || c == '\t' || c == '\n' || c == '\r'

/-- The characters behind the spaces. -/
def skipSpace (s : List Char) : List Char := s.dropWhile isSpace

/-- Reads a fixed word. -/
def word : List Char → List Char → Step Unit
  | [], s => .ok ((), s)
  | _ :: _, [] => .error .grammar
  | w :: ws, c :: s => if w = c then word ws s else .error .grammar

/-- The value of a hexadecimal digit. -/
def hexValue? (c : Char) : Option Nat :=
  if '0' ≤ c ∧ c ≤ '9' then some (c.toNat - '0'.toNat)
  else if 'a' ≤ c ∧ c ≤ 'f' then some (c.toNat - 'a'.toNat + 10)
  else if 'A' ≤ c ∧ c ≤ 'F' then some (c.toNat - 'A'.toNat + 10)
  else none

/-- The character named by one letter behind a backslash. -/
def escaped? : Char → Option Char
  | '"' => some '"'
  | '\\' => some '\\'
  | '/' => some '/'
  | 'b' => some '\x08'
  | 'f' => some '\x0c'
  | 'n' => some '\n'
  | 'r' => some '\r'
  | 't' => some '\t'
  | _ => none

/-- What a string is in the middle of. -/
inductive Pending
  | plain
  | escape
  /-- digits of a code unit, perhaps behind a first surrogate -/
  | digits (first : Option Nat) (left : Nat) (value : Nat)
  /-- a first surrogate awaits its backslash -/
  | backslash (first : Nat)
  /-- a first surrogate awaits the letter behind the backslash -/
  | letter (first : Nat)

/-- What a complete code unit amounts to. -/
inductive CodeUnit
  | char (c : Char)
  | first (n : Nat)
  | stray

/-- A code unit, perhaps behind a first surrogate. -/
def codeUnit (first : Option Nat) (n : Nat) : CodeUnit :=
  match first with
  | none =>
      if 0xD800 ≤ n ∧ n ≤ 0xDBFF then .first n
      else if 0xDC00 ≤ n ∧ n ≤ 0xDFFF then .stray
      else .char (Char.ofNat n)
  | some h =>
      if 0xDC00 ≤ n ∧ n ≤ 0xDFFF then
        .char (Char.ofNat ((h - 0xD800) * 0x400 + (n - 0xDC00) + 0x10000))
      else .stray

/-- The characters of a string up to its closing quote; `out` holds those read so
    far, the last one first. -/
def stringBody : Pending → List Char → List Char → Step (List Char)
  | _, _, [] => .error .grammar
  | .plain, out, c :: rest =>
      if c = '"' then .ok (out.reverse, rest)
      else if c = '\\' then stringBody .escape out rest
      else if c.toNat < 0x20 then .error .grammar
      else stringBody .plain (c :: out) rest
  | .escape, out, c :: rest =>
      if c = 'u' then stringBody (.digits none 4 0) out rest
      else
        match escaped? c with
        | some d => stringBody .plain (d :: out) rest
        | none => .error .grammar
  | .digits first left value, out, c :: rest =>
      match hexValue? c with
      | none => .error .grammar
      | some v =>
          if 1 < left then stringBody (.digits first (left - 1) (16 * value + v)) out rest
          else
            match codeUnit first (16 * value + v) with
            | .char d => stringBody .plain (d :: out) rest
            | .first n => stringBody (.backslash n) out rest
            | .stray => .error .grammar
  | .backslash first, out, c :: rest =>
      if c = '\\' then stringBody (.letter first) out rest else .error .grammar
  | .letter first, out, c :: rest =>
      if c = 'u' then stringBody (.digits (some first) 4 0) out rest else .error .grammar

/-- The text of a string whose opening quote was read. -/
def stringRest (s : List Char) : Step String :=
  (stringBody .plain [] s).map fun r => (String.ofList r.1, r.2)

/-- Passes over a string whose opening quote was read; its escapes are held to the
    grammar, `left` counting the digits a code unit still wants. -/
def passString : (afterBackslash : Bool) → (left : Nat) → List Char → Step Unit
  | _, _, [] => .error .grammar
  | true, _, c :: rest =>
      if c = 'u' then passString false 4 rest
      else if (escaped? c).isSome then passString false 0 rest
      else .error .grammar
  | false, left + 1, c :: rest =>
      if (hexValue? c).isSome then passString false left rest else .error .grammar
  | false, 0, c :: rest =>
      if c = '"' then .ok ((), rest)
      else if c = '\\' then passString true 0 rest
      else if c.toNat < 0x20 then .error .grammar
      else passString false 0 rest

/-- A numeral as it is written. -/
structure Numeral where
  negative : Bool
  whole : List Char
  fraction : Option (List Char)
  exponent : Option (Bool × List Char)

/-- At least one digit, and what is behind the digits. -/
def digits (s : List Char) : Step (List Char) :=
  let ds := s.takeWhile Char.isDigit
  if ds.isEmpty then .error .grammar else .ok (ds, s.dropWhile Char.isDigit)

/-- The fraction of a numeral, if there is a point. -/
def fractionPart : List Char → Step (Option (List Char))
  | '.' :: s => (digits s).map fun r => (some r.1, r.2)
  | s => .ok (none, s)

/-- The sign and digits of an exponent. -/
def exponentDigits : List Char → Step (Option (Bool × List Char))
  | '+' :: s => (digits s).map fun r => (some (false, r.1), r.2)
  | '-' :: s => (digits s).map fun r => (some (true, r.1), r.2)
  | s => (digits s).map fun r => (some (false, r.1), r.2)

/-- The exponent of a numeral, if there is one. -/
def exponentPart : List Char → Step (Option (Bool × List Char))
  | 'e' :: s => exponentDigits s
  | 'E' :: s => exponentDigits s
  | s => .ok (none, s)

/-- Reads a numeral: no sign but minus, no leading zero. -/
def numeral (s : List Char) : Except Problem (Numeral × List Char) := do
  let (negative, s) : Bool × List Char :=
    match s with
    | '-' :: rest => (true, rest)
    | rest => (false, rest)
  let (whole, s) ← digits s
  if whole.head? = some '0' ∧ whole ≠ ['0'] then throw .grammar
  let (fraction, s) ← fractionPart s
  let (exponent, s) ← exponentPart s
  return (⟨negative, whole, fraction, exponent⟩, s)

/-- The value of a decimal digit. -/
def digitValue (c : Char) : Nat := c.toNat - '0'.toNat

/-- The whole number that digits write. -/
def natOfDigits (ds : List Char) : Nat := ds.foldl (fun n c => 10 * n + digitValue c) 0

/-- Appends leading digits to a number as long as it stays below `2 ^ 64`, and
    counts them. -/
def absorb (n : Nat) : List Char → Nat × Nat
  | [] => (n, 0)
  | c :: rest =>
      let n' := 10 * n + digitValue c
      if n' < Nat.pow 2 64 then ((absorb n' rest).1, (absorb n' rest).2 + 1) else (n, 0)

/-- The value of a numeral.  An integer of sixty-four bits stays one.  Of any other
    number the leading digits below `2 ^ 64` are taken as a double, which is then
    scaled; a number too large for a double has no value. -/
def Numeral.value? (x : Numeral) : Option Number :=
  let (n, used) := absorb 0 x.whole
  let dropped := x.whole.length - used
  if dropped = 0 ∧ x.fraction.isNone ∧ x.exponent.isNone ∧
      (x.negative = false ∨ 0 < n ∧ n ≤ Nat.pow 2 63) then
    some (.integer (if x.negative then -(n : Int) else n))
  else
    let (m, places) := absorb n (x.fraction.getD [])
    let scale : Int :=
      match x.exponent with
      | none => 0
      | some (true, ds) => -(natOfDigits ds : Int)
      | some (false, ds) => natOfDigits ds
    ((Decimal.Double.ofNat? x.negative m).bind
      (·.scale? ((dropped : Int) - places + scale))).map .double

/-- Reads a number that is used. -/
def number (s : List Char) : Except Problem (Number × List Char) := do
  let (x, rest) ← numeral s
  match x.value? with
  | some n => return (n, rest)
  | none => throw .grammar

end EntityPlan.Json
