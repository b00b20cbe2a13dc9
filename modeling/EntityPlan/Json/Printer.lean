import EntityPlan.Json.Value
import EntityPlan.Text.Quoted

/-! # Printing JSON — indented text

    Every element and member stands on a line of its own, two blanks deeper than
    what it belongs to; empty lists and objects stay on one line.  Only quotes,
    backslashes and control characters are escaped. -/

namespace EntityPlan.Json

/-- One character as it stands in a JSON string. -/
def escapedChar (c : Char) : List Char :=
  if c = '"' then ['\\', '"']
  else if c = '\\' then ['\\', '\\']
  else if c = '\x08' then ['\\', 'b']
  else if c = '\x0c' then ['\\', 'f']
  else if c = '\n' then ['\\', 'n']
  else if c = '\r' then ['\\', 'r']
  else if c = '\t' then ['\\', 't']
  else if c.toNat < 0x10 then ['\\', 'u', '0', '0', '0'] ++ Text.hexDigits c.toNat
  else if c.toNat < 0x20 then ['\\', 'u', '0', '0'] ++ Text.hexDigits c.toNat
  else [c]

/-- A text as a JSON string. -/
def stringText (s : String) : String :=
  String.ofList (['"'] ++ s.toList.flatMap escapedChar ++ ['"'])

/-- The start of a line at this depth. -/
def newLine (depth : Nat) : String := "\n" ++ String.ofList (List.replicate (2 * depth) ' ')

mutual

/-- The text of a value whose first line stands at `depth`. -/
def Value.textAt (depth : Nat) : Value → String
  | .null => "null"
  | .boolean b => if b then "true" else "false"
  | .number n => n.text
  | .text s => stringText s
  | .list [] => "[]"
  | .list items => "[" ++ itemsText depth true items ++ newLine depth ++ "]"
  | .object [] => "\x7b\x7d"
  | .object members => "\x7b" ++ membersText depth true members ++ newLine depth ++ "\x7d"

/-- The lines of the elements of a list at `depth`. -/
def itemsText (depth : Nat) (first : Bool) : List Value → String
  | [] => ""
  | v :: rest =>
      (if first then "" else ",") ++ newLine (depth + 1) ++ v.textAt (depth + 1) ++
        itemsText depth false rest

/-- The lines of the members of an object at `depth`. -/
def membersText (depth : Nat) (first : Bool) : List (String × Value) → String
  | [] => ""
  | (k, v) :: rest =>
      (if first then "" else ",") ++ newLine (depth + 1) ++ stringText k ++ ": " ++
        v.textAt (depth + 1) ++ membersText depth false rest

end

/-- The indented text of a value. -/
def Value.pretty (v : Value) : String := v.textAt 0

end EntityPlan.Json
