/-! # Type overrides — rows of the type table as settings give them -/

namespace EntityPlan

/-- A row for one declared type; only the target is needed. -/
structure TypeOverride where
  target : String
  importName : Option String := none
  columnType : Option String := none
  domain : Option String := none
  sample : Option String := none
  deriving DecidableEq, Repr, Inhabited

end EntityPlan
