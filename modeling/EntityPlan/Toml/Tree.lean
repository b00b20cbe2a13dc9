import EntityPlan.Decimal.Double

/-! # TOML trees — tables, and how they come about

    A table is opened by a header of its own, or merely on the way to another one,
    by a header or by a dotted key, or it stands inline.  Where it came from decides
    who may still add to it: nobody may to an inline table, a dotted key only to
    what dotted keys have opened, and a header only opens what no header opened
    before. -/

namespace EntityPlan.Toml

/-- A number with a fraction, or what is written in place of one. -/
inductive Real
  | finite (d : Decimal.Double)
  | infinite (negative : Bool)
  | notANumber
  deriving DecidableEq, Repr

/-- A value without parts. -/
inductive Scalar
  | text (s : String)
  | boolean (b : Bool)
  | integer (n : Int)
  | real (r : Real)
  /-- a number that is too large to be one -/
  | tooLarge
  /-- a date, a time, or both, in its settled form -/
  | moment (text : String)
  deriving DecidableEq, Repr

/-- How a table came about. -/
inductive Origin
  /-- by its own header -/
  | header
  /-- on the way of a header -/
  | passed
  /-- on the way of a dotted key -/
  | dotted
  /-- between braces -/
  | inline
  deriving DecidableEq, Repr

/-- A value of a document.  Rows stand in the order in which they were written. -/
inductive Node
  | scalar (s : Scalar)
  | list (items : List Node)
  | table (origin : Origin) (rows : List (String × Node))
  /-- tables under one repeated header -/
  | tables (elements : List (List (String × Node)))
  deriving Repr, Inhabited

/-- The rows of a table. -/
abbrev Rows := List (String × Node)

/-- The rows with `key` set; a row of that key keeps its place. -/
def setRow (key : String) (node : Node) : Rows → Rows
  | [] => [(key, node)]
  | (k, n) :: rest => if k = key then (key, node) :: rest else (k, n) :: setRow key node rest

/-- A table may be entered on the way of a header, or of a dotted key. -/
def Origin.admits (dotted : Bool) : Origin → Bool
  | .inline => false
  | .header => !dotted
  | .passed | .dotted => true

/-- Changes the table at the end of a path, given its origin; tables that are missing
    on the way are opened. -/
def within (dotted : Bool) (change : Origin → Rows → Option Rows) :
    List String → Origin → Rows → Option Rows
  | [], origin, rows => change origin rows
  | key :: path, _, rows =>
      match rows.lookup key with
      | none =>
          let origin := if dotted then Origin.dotted else .passed
          (within dotted change path origin []).map fun below =>
            setRow key (.table origin below) rows
      | some (.table origin below) =>
          if origin.admits dotted then
            (within dotted change path origin below).map fun below =>
              setRow key (.table origin below) rows
          else none
      | some (.tables elements) =>
          match elements.getLast? with
          | some below =>
              (within dotted change path .header below).map fun below =>
                setRow key (.tables (elements.dropLast ++ [below])) rows
          | none => none
      | some (.list _) => none
      | some (.scalar _) => none

/-- Adds a row under a key that is not there yet. -/
def addRow (key : String) (node : Node) (rows : Rows) : Option Rows :=
  match rows.lookup key with
  | none => some (rows ++ [(key, node)])
  | some _ => none

/-- Adds a row under a key, dotted if `path` is not empty. -/
def addAt (path : List String) (key : String) (node : Node) (origin : Origin) (rows : Rows) :
    Option Rows :=
  within (!path.isEmpty)
    (fun origin rows =>
      if (origin == .dotted) == path.isEmpty then none else addRow key node rows)
    path origin rows

/-- Opens a table by its header. -/
def openTable (key : String) (rows : Rows) : Option Rows :=
  match rows.lookup key with
  | none => some (rows ++ [(key, .table .header [])])
  | some (.table .passed below) => some (setRow key (.table .header below) rows)
  | some _ => none

/-- Opens one more table under a repeated header. -/
def openElement (key : String) (rows : Rows) : Option Rows :=
  match rows.lookup key with
  | none => some (rows ++ [(key, .tables [[]])])
  | some (.tables elements) => some (setRow key (.tables (elements ++ [[]])) rows)
  | some _ => none

end EntityPlan.Toml
