import EntityPlan.Diagnostics.Event
import EntityPlan.Failure
import EntityPlan.SortedMap
import EntityPlan.Types.Row

/-! # Type tables — declared types and their rows

    The table is data: a declared type is supported when it has a row.  Settings
    add rows and replace them; a row written later wins.  A row from settings whose
    target cannot be resolved is taken all the same, with a warning. -/

namespace EntityPlan

/-- Rows by declared type. -/
structure TypeTable where
  rows : SortedMap TypeRow
  deriving DecidableEq, Repr

namespace TypeTable

/-- The table without rows. -/
def empty : TypeTable := ⟨.empty⟩

/-- The table of the rows that are built in. -/
def builtin : TypeTable := ⟨.ofList TypeRow.builtin⟩

/-- The row of a declared type. -/
def lookup? (t : TypeTable) (type : String) : Option TypeRow := t.rows.lookup? type

def contains (t : TypeTable) (type : String) : Bool := t.rows.contains type

/-- The number of rows. -/
def size (t : TypeTable) : Nat := t.rows.size

/-- The table with a row written. -/
def withRow (t : TypeTable) (type : String) (row : TypeRow) : TypeTable :=
  ⟨t.rows.insert type row⟩

/-- The row of the type of a field, which must have one. -/
def resolve (t : TypeTable) (entity field type : String) : Except Failure TypeRow :=
  match t.lookup? type with
  | some row => .ok row
  | none => .error (.unmappedType entity field type)

theorem resolve_eq_ok_iff (t : TypeTable) (entity field type : String) {row : TypeRow} :
    t.resolve entity field type = .ok row ↔ t.lookup? type = some row := by
  unfold resolve
  cases t.lookup? type with
  | none => simp
  | some row' => simp

/-- Only a type without a row cannot be resolved. -/
theorem resolve_eq_error_iff (t : TypeTable) (entity field type : String) {f : Failure} :
    t.resolve entity field type = .error f ↔
      t.lookup? type = none ∧ .unmappedType entity field type = f := by
  unfold resolve
  cases t.lookup? type with
  | none => simp
  | some row => simp

/-- The part of the program that its warnings name. -/
def target : String := "jdlgen_model::types"

/-- The warning about a row whose target cannot be resolved. -/
def missingImport (type : String) (row : TypeRow) : Event where
  level := .warn
  target := target
  message := "type override target is not a Kotlin built-in and has no import"
  details := [("jdl_type", type), ("target", row.target)]

/-- The rows of overrides, in byte order of the declared types. -/
def overrideRows (overrides : SortedMap TypeOverride) : List (String × TypeRow) :=
  overrides.rows.map fun o => (o.1, TypeRow.ofOverride o.2)

/-- The table with overrides written. -/
def withOverrides (t : TypeTable) (overrides : SortedMap TypeOverride) : TypeTable :=
  (overrideRows overrides).foldl (fun t r => t.withRow r.1 r.2) t

/-- The warnings about overrides, in byte order of the declared types. -/
def overrideWarnings (overrides : SortedMap TypeOverride) : List Event :=
  ((overrideRows overrides).filter fun r => r.2.lacksImport).map fun r => missingImport r.1 r.2

/-- The row written last is found, and no other row changes. -/
theorem lookup?_withRow (t : TypeTable) (type key : String) (row : TypeRow) :
    (t.withRow type row).lookup? key = if key = type then some row else t.lookup? key :=
  SortedMap.lookup?_insert t.rows type key row

end TypeTable

end EntityPlan
