import EntityPlan.Naming
import EntityPlan.Relationship
import EntityPlan.Scope
import EntityPlan.Text.Distinct

/-! # Models — entities with every name and type settled

    A model holds whatever a template needs, so that nothing is worked out later:
    names, packages, columns, imports, and for each field what its type becomes. -/

namespace EntityPlan

/-- A field with its type resolved. -/
structure FieldModel where
  name : String
  /-- the type as it was declared -/
  type : String
  target : String
  importName : Option String
  column : String
  columnType : String
  domain : String
  required : Bool
  nullable : Bool
  unique : Bool
  description : Option String
  sample : String
  /-- the field is part of the audit trail -/
  audited : Bool
  /-- the field is part of the search index -/
  searchable : Bool
  deriving DecidableEq, Repr

namespace FieldModel

/-- The declaration of the property, with a question mark if it may be null. -/
def declaration (f : FieldModel) : String :=
  f.name ++ ": " ++ f.target ++ (if f.nullable then "?" else "")

/-- The declaration of the column. -/
def columnDeclaration (f : FieldModel) : String :=
  f.column ++ " " ++ f.columnType ++ (if f.required then " NOT NULL" else "")

end FieldModel

/-- The imports of fields, each once, in the order in which the fields first need them. -/
def importsOf (fields : List FieldModel) : List String :=
  Text.distinct (fields.filterMap (·.importName))

/-- A relationship to another entity of the model. -/
structure RelationshipModel where
  name : String
  target : String
  cardinality : Cardinality
  required : Bool
  /-- the column that joins the two entities, on the owning side -/
  joinColumn : Option String
  deriving DecidableEq, Repr

/-- An entity with every name and type settled. -/
structure EntityModel where
  name : String
  packageName : String
  tableName : String
  description : Option String
  fields : List FieldModel
  /-- the imports of the fields, each once -/
  imports : List String
  relationships : List RelationshipModel
  scope : Scope
  auditable : Bool
  searchable : Bool
  deriving DecidableEq, Repr

namespace EntityModel

def nameLower (m : EntityModel) : String := Text.lower m.name

def nameUpperSnake (m : EntityModel) : String := Naming.upperSnake m.name

/-- The first field of this name. -/
def field? (m : EntityModel) (name : String) : Option FieldModel :=
  m.fields.find? (·.name == name)

def requiredFields (m : EntityModel) : List FieldModel := m.fields.filter (·.required)

end EntityModel

end EntityPlan
