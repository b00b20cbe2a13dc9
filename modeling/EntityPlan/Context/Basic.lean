import EntityPlan.Context.Positioned
import EntityPlan.Model.Basic

/-! # Template contexts — what the templates of an entity are filled from

    A context repeats the model of an entity, with the declarations of its fields
    written out and every list element knowing its place. -/

namespace EntityPlan

/-- A field with the declaration of its property. -/
structure FieldContext where
  field : FieldModel
  declaration : String
  deriving DecidableEq, Repr

/-- The column of a field. -/
structure ColumnContext where
  name : String
  declaration : String
  domain : String
  deriving DecidableEq, Repr

/-- What the templates of an entity are filled from. -/
structure TemplateContext where
  packageName : String
  name : String
  nameLower : String
  nameUpperSnake : String
  tableName : String
  description : Option String
  resourceType : String
  scopeTag : String
  baseColumns : String
  auditable : Bool
  searchable : Bool
  fields : List (Positioned FieldContext)
  imports : List (Positioned String)
  columns : List (Positioned ColumnContext)
  relationships : List (Positioned RelationshipModel)
  deriving DecidableEq, Repr

/-- The field in a context. -/
def FieldContext.ofField (f : FieldModel) : FieldContext := ⟨f, f.declaration⟩

/-- The column of a field in a context. -/
def ColumnContext.ofField (f : FieldModel) : ColumnContext :=
  ⟨f.column, f.columnDeclaration, f.domain⟩

/-- The context of an entity. -/
def TemplateContext.ofModel (m : EntityModel) : TemplateContext where
  packageName := m.packageName
  name := m.name
  nameLower := m.nameLower
  nameUpperSnake := m.nameUpperSnake
  tableName := m.tableName
  description := m.description
  resourceType := m.scope.name
  scopeTag := m.scope.tag
  baseColumns := m.scope.baseColumns
  auditable := m.auditable
  searchable := m.searchable
  fields := Positioned.list (m.fields.map .ofField)
  imports := Positioned.list m.imports
  columns := Positioned.list (m.fields.map .ofField)
  relationships := Positioned.list m.relationships

end EntityPlan
