import EntityPlan.Text.Pieces

/-! # Moments — dates and times of a TOML document

    A moment is a date, a time of day, or both with a `T` or a blank between them
    and perhaps an offset behind.  It is kept as text in one settled form. -/

namespace EntityPlan.Toml

/-- The number that exactly `n` digits write, and the characters behind them. -/
def fixedDigits (n : Nat) (s : List Char) : Option (Nat × List Char) :=
  let ds := s.take n
  if ds.length = n ∧ ds.all Char.isDigit then
    some (ds.foldl (fun a c => 10 * a + (c.toNat - '0'.toNat)) 0, s.drop n)
  else none

/-- Passes over one of these characters. -/
def oneOf (cs : List Char) (s : List Char) : Option (List Char) :=
  match s with
  | c :: rest => if cs.contains c then some rest else none
  | [] => none

/-- The days of a month. -/
def daysOf (year month : Nat) : Nat :=
  if month = 2 then
    if year % 4 = 0 ∧ (year % 100 ≠ 0 ∨ year % 400 = 0) then 29 else 28
  else if [4, 6, 9, 11].contains month then 30 else 31

/-- A number in decimal digits, zeros in front up to the given width. -/
def padZeros (width n : Nat) : String :=
  let ds := Nat.toDigits 10 n
  String.ofList (List.replicate (width - ds.length) '0' ++ ds)

/-- Reads a date. -/
def date (s : List Char) : Option (String × List Char) := do
  let (year, s) ← fixedDigits 4 s
  let (month, s) ← fixedDigits 2 (← oneOf ['-'] s)
  let (day, s) ← fixedDigits 2 (← oneOf ['-'] s)
  if 1 ≤ month ∧ month ≤ 12 ∧ 1 ≤ day ∧ day ≤ daysOf year month then
    some (padZeros 4 year ++ "-" ++ padZeros 2 month ++ "-" ++ padZeros 2 day, s)
  else none

/-- Reads the fraction of a second, of which nine digits count. -/
def fraction (s : List Char) : Option (String × List Char) :=
  match s with
  | '.' :: rest =>
      let ds := rest.takeWhile Char.isDigit
      if ds.isEmpty then none
      else
        let kept := ((ds.take 9).reverse.dropWhile (· == '0')).reverse
        some ("." ++ String.ofList (if kept.isEmpty then ['0'] else kept), rest.drop ds.length)
  | _ => some ("", s)

/-- Reads the seconds of a time, which may be left out. -/
def seconds (s : List Char) : Option (String × List Char) :=
  match s with
  | ':' :: rest => do
      let (second, s) ← fixedDigits 2 rest
      let (part, s) ← fraction s
      if second ≤ 60 then some (":" ++ padZeros 2 second ++ part, s) else none
  | _ => some ("", s)

/-- Reads a time of day. -/
def time (s : List Char) : Option (String × List Char) := do
  let (hour, s) ← fixedDigits 2 s
  let (minute, s) ← fixedDigits 2 (← oneOf [':'] s)
  let (rest, s) ← seconds s
  if hour ≤ 23 ∧ minute ≤ 59 then
    some (padZeros 2 hour ++ ":" ++ padZeros 2 minute ++ rest, s)
  else none

/-- Reads the distance to the common time, which may be left out. -/
def offset (s : List Char) : Option (String × List Char) :=
  match s with
  | [] => some ("", [])
  | c :: rest =>
      if c = 'Z' ∨ c = 'z' then some ("Z", rest)
      else if c = '+' ∨ c = '-' then do
        let (hour, s) ← fixedDigits 2 rest
        let (minute, s) ← fixedDigits 2 (← oneOf [':'] s)
        let sign := if c = '-' ∧ 0 < hour + minute then "-" else "+"
        if hour ≤ 23 ∧ minute ≤ 59 then
          some (sign ++ padZeros 2 hour ++ ":" ++ padZeros 2 minute, s)
        else none
      else some ("", s)

/-- A date that a time may follow. -/
def dated (s : List Char) : Option (String × List Char) := do
  let (day, s) ← date s
  match oneOf ['T', 't', ' '] s with
  | none => some (day, s)
  | some s =>
      let (clock, s) ← time s
      let (zone, s) ← offset s
      some (day ++ "T" ++ clock ++ zone, s)

/-- The settled form of a moment. -/
def moment? (s : List Char) : Option String :=
  match dated s with
  | some (text, []) => some text
  | _ =>
      match time s with
      | some (text, []) => some text
      | _ => none

end EntityPlan.Toml
