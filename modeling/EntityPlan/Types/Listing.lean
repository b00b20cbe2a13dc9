import EntityPlan.Types.Table

/-! # Type listings — the table as aligned columns

    One line for the headings and one for each row.  Every cell is as wide as the
    widest of its column, two blanks stand between cells, and a line ends with its
    last character that is not blank. -/

namespace EntityPlan.TypeTable

/-- The cells of one line. -/
structure Line where
  type : String
  target : String
  importName : String
  columnType : String
  domain : String
  deriving DecidableEq, Repr

/-- The cells in order. -/
def Line.cells (l : Line) : List String := [l.type, l.target, l.importName, l.columnType, l.domain]

/-- The headings. -/
def headings : Line := ⟨"JDL", "KOTLIN", "IMPORT", "SQL", "DOMAIN"⟩

/-- The line of a row; a dash stands for no import. -/
def lineOf (type : String) (row : TypeRow) : Line :=
  ⟨type, row.target, row.importName.getD "-", row.columnType, row.domain⟩

/-- The headings, and the line of each row. -/
def lines (t : TypeTable) : List Line := headings :: t.rows.rows.map fun r => lineOf r.1 r.2

/-- The widest of these cells. -/
def widest (cells : List String) : Nat := (cells.map String.length).foldl max 0

/-- The width of each column. -/
def widths (ls : List Line) : List Nat :=
  [ widest (ls.map (·.type)), widest (ls.map (·.target)), widest (ls.map (·.importName)),
    widest (ls.map (·.columnType)), widest (ls.map (·.domain)) ]

/-- A cell with blanks up to a width. -/
def padded (width : Nat) (cell : String) : List Char :=
  cell.toList ++ List.replicate (width - cell.length) ' '

/-- Cells side by side, two blanks between them. -/
def sideBySide : List (List Char) → List Char
  | [] => []
  | [cell] => cell
  | cell :: rest => cell ++ [' ', ' '] ++ sideBySide rest

/-- The text of a line. -/
def Line.text (ws : List Nat) (l : Line) : String :=
  String.ofList (Text.trimEnd (sideBySide (List.zipWith padded ws l.cells)))

/-- The table as aligned columns. -/
def listing (t : TypeTable) : String :=
  String.join (t.lines.map fun l => l.text (widths t.lines) ++ "\n")

end EntityPlan.TypeTable
