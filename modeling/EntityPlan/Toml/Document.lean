import EntityPlan.Problem
import EntityPlan.Toml.Scalar
import EntityPlan.Toml.Token

/-! # TOML documents — from text to a tree

    A document is a sequence of lines: headers, keys with their values, and lines
    with neither.  A value may run over several lines.  Whatever is wrong, the
    document as a whole is refused. -/

namespace EntityPlan.Toml

/-- How many lists and inline tables may be open at once. -/
def depthLimit : Nat := 80

/-- Passes over one character that must be there. -/
def mark (c : Char) : Scan Unit := fun s =>
  if s.head? = some c then some ((), s.drop 1) else none

/-- Passes over blanks. -/
def spaces : Scan Unit := fun s => some ((), skipSpace s)

/-- Passes over blanks, line ends and comments. -/
def gap : Scan Unit := fun s => (skipLines false s).map ((), ·)

/-- A key with the path before its last part. -/
def keyPath : Scan (List String × String) := fun s => do
  let (parts, rest) ← key (s.length + 1) s
  let last ← parts.getLast?
  return ((parts.dropLast, last), rest)

/-- A key and its value. -/
def assignment (value : Scan Node) : Scan ((List String × String) × Node) := do
  let path ← keyPath
  mark '='
  spaces
  return (path, ← value)

/-- The elements of a list whose bracket was read. -/
def elements (value : Scan Node) : (fuel : Nat) → Scan (List Node)
  | 0 => fun _ => none
  | fuel + 1 => do
      gap
      if (← get).head? = some ']' then
        mark ']'
        return []
      let node ← value
      gap
      if (← get).head? = some ',' then
        mark ','
        return node :: (← elements value fuel)
      mark ']'
      return [node]

/-- The rows of an inline table whose brace was read. -/
def inlineRows (value : Scan Node) : (fuel : Nat) → Rows → Scan Rows
  | 0, _ => fun _ => none
  | fuel + 1, rows => do
      gap
      if (← get).head? = some '}' then
        mark '}'
        return rows
      let ((path, last), node) ← assignment value
      let rows ← (addAt path last node .inline rows : Option Rows)
      gap
      if (← get).head? = some ',' then
        mark ','
        inlineRows value fuel rows
      else
        mark '}'
        return rows

/-- A value that may open this many lists and inline tables. -/
def value : (levels : Nat) → Scan Node
  | levels, s =>
    match s with
    | [] => none
    | c :: rest =>
        if c = '"' ∨ c = '\'' then (stringToken s).map fun r => (.scalar (.text r.1), r.2)
        else if c = '[' then
          match levels with
          | 0 => none
          | inner + 1 =>
              (elements (value inner) (rest.length + 1) rest).map fun r => (.list r.1, r.2)
        else if c = '{' then
          match levels with
          | 0 => none
          | inner + 1 =>
              (inlineRows (value inner) (rest.length + 1) [] rest).map fun r =>
                (.table .inline r.1, r.2)
        else
          let (word, rest) := wordHere s
          (scalar? word).map fun n => (.scalar n, rest)

/-- A document as far as it was read: its rows, and the path of the table that keys
    are added to. -/
structure Draft where
  rows : Rows
  path : List String

/-- The draft with a table opened by its header, once more for each repetition. -/
def Draft.header (d : Draft) (repeated : Bool) (path : List String) (last : String) :
    Option Draft := do
  let change := if repeated then openElement last else openTable last
  let rows ← within false (fun _ rows => change rows) path .header d.rows
  return ⟨rows, path ++ [last]⟩

/-- The draft with a row added to the open table. -/
def Draft.add (d : Draft) (path : List String) (last : String) (node : Node) : Option Draft := do
  let rows ← within false (addAt path last node) d.path .header d.rows
  return { d with rows }

/-- What stands at the start of a line, up to the end of that line. -/
def line (d : Draft) : Scan Draft := do
  spaces
  let s ← get
  match s with
  | '[' :: '[' :: rest =>
      set rest
      let (path, last) ← keyPath
      mark ']'
      mark ']'
      d.header true path last
  | '[' :: rest =>
      set rest
      let (path, last) ← keyPath
      mark ']'
      d.header false path last
  | _ =>
      if s.isEmpty ∨ s.head? = some '#' ∨ (afterNewline? s).isSome then return d
      else
        let ((path, last), node) ← assignment (value depthLimit)
        d.add path last node

/-- The lines of a document. -/
def lines : (fuel : Nat) → Draft → List Char → Option Draft
  | 0, _, _ => none
  | fuel + 1, d, s =>
      if s.isEmpty then some d
      else do
        let (d, s) ← line d s
        lines fuel d (← endLine false s)

/-- The rows of a document. -/
def ofText (text : String) : Except Problem Rows :=
  let s := text.toList
  let s := if s.head? = some '\ufeff' then s.drop 1 else s
  match lines (s.length + 1) ⟨[], []⟩ s with
  | some d => .ok d.rows
  | none => .error .grammar

end EntityPlan.Toml
