import EntityPlan.Text.Case.Table

/-! # Case mapping — whole texts in lower and upper case

    Characters are mapped by the Unicode character database, some onto several
    characters (`ß` onto `SS`).  The one mapping that looks around itself is that
    of the capital sigma: at the end of a word it becomes `ς` and elsewhere `σ`.
    A sigma ends a word when a cased character comes before it and none after it,
    ignorable characters in between not counting. -/

namespace EntityPlan.Text

/-- The code point lies in one of the ranges. -/
def inRanges (ranges : List (Nat × Nat)) (n : Nat) : Bool :=
  ranges.any fun r => decide (r.1 ≤ n) && decide (n ≤ r.2)

/-- The first shift that knows the character moves it; else it stays. -/
def shifted (shifts : List Shift) (c : Char) : Char :=
  match shifts.findSome? (·.image? c.toNat) with
  | some n => Char.ofNat n
  | none => c

/-- The lower-case image of one character by itself. -/
def lowerChar (c : Char) : List Char :=
  if c.toNat < 128 then [c.toLower]
  else if c = 'İ' then ['i', '\u0307']
  else [shifted lowerShifts c]

/-- The upper-case image of one character. -/
def upperChar (c : Char) : List Char :=
  if c.toNat < 128 then [c.toUpper]
  else
    match upperExpansions.lookup c.toNat with
    | some ns => ns.map Char.ofNat
    | none => [shifted upperShifts c]

/-- Word boundaries look through this character. -/
def isIgnorable (c : Char) : Bool := inRanges ignorableRanges c.toNat

/-- An upper-case, lower-case or title-case character. -/
def isCased (c : Char) : Bool := inRanges casedRanges c.toNat

/-- The first character that is not ignorable is cased. -/
def startsCased (cs : List Char) : Bool :=
  match cs.dropWhile isIgnorable with
  | [] => false
  | c :: _ => isCased c

/-- A sigma between these characters, those before it nearest first, ends a word. -/
def endsWord (before after : List Char) : Bool := startsCased before && !startsCased after

/-- The characters in lower case, given those before them, nearest first. -/
def lowerAfter (before : List Char) : List Char → List Char
  | [] => []
  | c :: rest =>
      (if c = 'Σ' then [if endsWord before rest then 'ς' else 'σ'] else lowerChar c) ++
        lowerAfter (c :: before) rest

/-- The text in lower case. -/
def lower (s : String) : String := String.ofList (lowerAfter [] s.toList)

/-- The text in upper case. -/
def upper (s : String) : String := String.ofList (s.toList.flatMap upperChar)

/-- The text with its first character in lower case. -/
def lowerFirst (s : String) : String :=
  match s.toList with
  | [] => ""
  | c :: rest => String.ofList (lowerChar c ++ rest)

end EntityPlan.Text
