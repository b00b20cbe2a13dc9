import EntityPlan.Settings.TypeOverride
import EntityPlan.Text.Blank

/-! # Type rows — what a declared type becomes

    A row gives the target type, the import that it needs, the type and domain of
    its column and a sample value.  A row taken from settings fills what they leave
    out; its import counts only when it is not blank. -/

namespace EntityPlan

/-- What a declared type becomes. -/
structure TypeRow where
  target : String
  /-- `none` for a type that needs no import -/
  importName : Option String
  columnType : String
  domain : String
  sample : String
  deriving DecidableEq, Repr, Inhabited

namespace TypeRow

def timestampSample : String := "2024-08-25T14:15:22"

def binarySample : String := "<binary>"

/-- The rows that every table starts with, by declared type. -/
def builtin : List (String × TypeRow) :=
  [ ("String", ⟨"String", none, "VARCHAR", "t_text", "Example String"⟩),
    ("TextBlob", ⟨"String", none, "TEXT", "t_text", "Example String"⟩),
    ("UUID", ⟨"UUID", some "java.util.UUID", "UUID", "t_uuid",
      "123e4567-e89b-12d3-a456-426614174000"⟩),
    ("Integer", ⟨"Int", none, "INTEGER", "t_identity", "1001"⟩),
    ("Long", ⟨"Long", none, "BIGINT", "t_identity", "1001"⟩),
    ("BigInteger", ⟨"BigInteger", some "java.math.BigInteger", "NUMERIC", "t_identity", "1001"⟩),
    ("Float", ⟨"Float", none, "REAL", "t_float", "123.45"⟩),
    ("Double", ⟨"Double", none, "DOUBLE PRECISION", "t_float", "123.45"⟩),
    ("BigDecimal", ⟨"BigDecimal", some "java.math.BigDecimal", "NUMERIC(19, 4)", "t_money",
      "123.45"⟩),
    ("Boolean", ⟨"Boolean", none, "BOOLEAN", "t_boolean", "true"⟩),
    ("Instant", ⟨"LocalDateTime", some "java.time.LocalDateTime", "TIMESTAMP WITH TIME ZONE",
      "t_timestamp", timestampSample⟩),
    ("ZonedDateTime", ⟨"ZonedDateTime", some "java.time.ZonedDateTime",
      "TIMESTAMP WITH TIME ZONE", "t_timestampz", timestampSample⟩),
    ("LocalDate", ⟨"LocalDate", some "java.time.LocalDate", "DATE", "t_datetime", "2024-08-25"⟩),
    ("Duration", ⟨"Duration", some "java.time.Duration", "INTERVAL", "t_duration", "PT15M"⟩),
    ("Blob", ⟨"ByteArray", none, "BYTEA", "t_binary", binarySample⟩),
    ("AnyBlob", ⟨"ByteArray", none, "BYTEA", "t_binary", binarySample⟩),
    ("ImageBlob", ⟨"ByteArray", none, "BYTEA", "t_binary", binarySample⟩),
    ("byte[]", ⟨"ByteArray", none, "BYTEA", "t_binary", binarySample⟩) ]

/-- The targets that need no import. -/
def freeTargets : List String :=
  (builtin.filter fun r => r.2.importName == none).map fun r => r.2.target

/-- The row names no import although its target needs one. -/
def lacksImport (r : TypeRow) : Bool := r.importName == none && !freeTargets.contains r.target

/-- The column type of an override that names none. -/
def defaultColumnType : String := "VARCHAR"

/-- The column domain of an override that names none. -/
def defaultDomain : String := "t_unknown"

/-- The row of an override. -/
def ofOverride (o : TypeOverride) : TypeRow where
  target := o.target
  importName := o.importName.filter fun name => !Text.allBlank name
  columnType := o.columnType.getD defaultColumnType
  domain := o.domain.getD defaultDomain
  sample := o.sample.getD o.target

end TypeRow

end EntityPlan
