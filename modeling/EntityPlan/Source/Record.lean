import EntityPlan.Json.Value
import EntityPlan.SortedMap
import EntityPlan.Source.Collection

/-! # Source records — a model as it was exported

    Every attribute of a record may be missing; which ones are needed is decided
    where a record becomes a declaration. -/

namespace EntityPlan.Source

/-- An annotation `@name(value)`. -/
structure OptionRecord where
  name : Option String := none
  value : Option Json.Value := none
  deriving DecidableEq, Repr, Inhabited

/-- A validation of a field, such as `maxlength(64)`. -/
structure ValidationRecord where
  key : Option String := none
  value : Option Json.Value := none
  deriving DecidableEq, Repr, Inhabited

/-- A field of an entity. -/
structure FieldRecord where
  name : Option String := none
  type : Option String := none
  description : Option String := none
  validations : Option (List ValidationRecord) := none
  annotations : Option (List OptionRecord) := none
  deriving DecidableEq, Repr, Inhabited

/-- An entity. -/
structure EntityRecord where
  name : Option String := none
  tableName : Option String := none
  description : Option String := none
  body : Option (List FieldRecord) := none
  annotations : Option (List OptionRecord) := none
  deriving DecidableEq, Repr, Inhabited

/-- Names and kind of an application. -/
structure ApplicationConfig where
  baseName : Option String := none
  packageName : Option String := none
  applicationType : Option String := none
  deriving DecidableEq, Repr, Inhabited

/-- The entities that an application lists and those it leaves out. -/
structure Selection where
  listed : Option (List String) := none
  excluded : Option (List String) := none
  deriving DecidableEq, Repr, Inhabited

/-- An application. -/
structure ApplicationRecord where
  config : Option ApplicationConfig := none
  entities : Option Selection := none
  dto : Option (SortedMap Json.Value) := none
  service : Option (SortedMap Json.Value) := none
  paginate : Option (SortedMap Json.Value) := none
  other : Option (SortedMap Json.Value) := none
  deriving DecidableEq, Repr, Inhabited

/-- One side of a relationship. -/
structure SideRecord where
  name : Option String := none
  injectedField : Option String := none
  required : Option Bool := none
  deriving DecidableEq, Repr, Inhabited

/-- A relationship between two entities. -/
structure RelationshipRecord where
  kind : Option String := none
  source : Option SideRecord := none
  target : Option SideRecord := none
  deriving DecidableEq, Repr, Inhabited

/-- All records of one or more exports. -/
structure Document where
  entities : Collection EntityRecord := .empty
  applications : Collection ApplicationRecord := .empty
  relationships : List RelationshipRecord := []
  deriving DecidableEq, Repr, Inhabited

end EntityPlan.Source
