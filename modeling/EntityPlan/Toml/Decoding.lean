import EntityPlan.Decimal.Notation
import EntityPlan.Problem
import EntityPlan.SortedMap
import EntityPlan.Toml.Tree

/-! # Decoding TOML — typed values from a tree

    The rows of a table are taken in byte order of their keys, and the first
    problem is the answer.  A row that nobody asks for is passed over, but a number
    in it must be one.  A moment stands for a table with one reserved key. -/

namespace EntityPlan.Toml

/-- The text of a number with a fraction. -/
def Real.text : Real → String
  | .finite d => Decimal.Notation.plain.write d
  | .infinite negative => if negative then "-inf" else "inf"
  | .notANumber => "NaN"

/-- The description of a whole number, which may be wider than sixty-four bits. -/
def foundInteger (n : Int) : Found :=
  if -Int.pow 2 63 ≤ n ∧ n < Int.pow 2 64 then .integer n
  else .wideInteger n (if n < Int.pow 2 127 then "i128" else "u128")

/-- The key that a moment stands under when it is taken for a table. -/
def momentKey : String := "$__toml_private_datetime"

/-- The problem of a value where another one is wanted. -/
def refusal (wanted : String) : Node → Problem
  | .scalar (.text s) => .wrongType (.text s) wanted
  | .scalar (.boolean b) => .wrongType (.boolean b) wanted
  | .scalar (.integer n) => .wrongType (foundInteger n) wanted
  | .scalar (.real r) => .wrongType (.real r.text) wanted
  | .scalar .tooLarge => .grammar
  | .scalar (.moment _) => .wrongType .table wanted
  | .list _ => .wrongType .list wanted
  | .tables _ => .wrongType .list wanted
  | .table _ _ => .wrongType .table wanted

/-- Reads a text. -/
def text : Node → Except Problem String
  | .scalar (.text s) => .ok s
  | node => .error (refusal "a string" node)

/-- Reads a text that is a path. -/
def pathText : Node → Except Problem String
  | .scalar (.text s) => .ok s
  | node => .error (refusal "path string" node)

/-- Reads a truth value. -/
def flag : Node → Except Problem Bool
  | .scalar (.boolean b) => .ok b
  | node => .error (refusal "a boolean" node)

/-- The rows of a table in byte order of their keys. -/
def sortedRows (rows : Rows) : Rows := (SortedMap.ofList rows).rows

/-- The rows of whatever can be taken for a table. -/
def rows? : Node → Option Rows
  | .table _ rows => some (sortedRows rows)
  | .scalar (.moment s) => some [(momentKey, .scalar (.text s))]
  | _ => none

/-- The elements of whatever can be taken for a list. -/
def items? : Node → Option (List Node)
  | .list items => some items
  | .tables elements => some (elements.map (.table .header))
  | _ => none

mutual

/-- Every number in the value is one. -/
def isSound : Node → Bool
  | .scalar s => s != .tooLarge
  | .list items => areSound items
  | .table _ rows => rowsSound rows
  | .tables elements => elementsSound elements

/-- Every number in the values is one. -/
def areSound : List Node → Bool
  | [] => true
  | node :: rest => isSound node && areSound rest

/-- Every number in the rows is one. -/
def rowsSound : List (String × Node) → Bool
  | [] => true
  | (_, node) :: rest => isSound node && rowsSound rest

/-- Every number in the tables is one. -/
def elementsSound : List (List (String × Node)) → Bool
  | [] => true
  | rows :: rest => rowsSound rows && elementsSound rest

end

/-- Passes over a value. -/
def pass (node : Node) : Except Problem Unit :=
  if isSound node then .ok () else .error .grammar

/-- A member of a record: its name, and how the record takes a value up. -/
structure Member (ρ : Type) where
  name : String
  take : Node → Except Problem (ρ → ρ)

/-- A member of this name whose value `set` stores. -/
def member {α ρ : Type} (name : String) (read : Node → Except Problem α) (set : α → ρ → ρ) :
    Member ρ :=
  ⟨name, fun node => (read node).map set⟩

/-- Takes up the rows of a table. -/
def takeRows {ρ : Type} (known : List (Member ρ)) : Rows → ρ → Except Problem ρ
  | [], r => .ok r
  | (k, node) :: rest, r => do
      match known.find? (·.name == k) with
      | some f =>
          let set ← f.take node
          takeRows known rest (set r)
      | none =>
          pass node
          takeRows known rest r

/-- Takes up the elements of a list as the members in order; surplus ones are not
    looked at. -/
def takeItems {ρ : Type} : List (Member ρ) → List Node → ρ → Except Problem ρ
  | f :: known, node :: rest, r => do
      let set ← f.take node
      takeItems known rest (set r)
  | _, _, r => .ok r

/-- Reads a record, as a table or as a list of its members in order. -/
def record {ρ : Type} (name : String) (known : List (Member ρ)) (start : ρ) (node : Node) :
    Except Problem ρ :=
  match rows? node with
  | some rows => takeRows known rows start
  | none =>
      match items? node with
      | some items => takeItems known items start
      | none => .error (refusal ("struct " ++ name) node)

/-- Reads each row of a table. -/
def mapping {α : Type} (read : String → Node → Except Problem α) (node : Node) :
    Except Problem (List α) :=
  match rows? node with
  | some rows => rows.mapM fun r => read r.1 r.2
  | none => .error (refusal "a map" node)

end EntityPlan.Toml
