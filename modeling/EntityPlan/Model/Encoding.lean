import EntityPlan.Json.Value
import EntityPlan.Model.Basic

/-! # Models as JSON — one member for each attribute -/

namespace EntityPlan

open Json (Value)

/-- The members of a field. -/
def FieldModel.members (f : FieldModel) : List (String × Value) :=
  [ ("name", .text f.name),
    ("jdlType", .text f.type),
    ("targetType", .text f.target),
    ("import", .ofText? f.importName),
    ("dbColumnName", .text f.column),
    ("dbDataType", .text f.columnType),
    ("dbDomain", .text f.domain),
    ("required", .boolean f.required),
    ("nullable", .boolean f.nullable),
    ("unique", .boolean f.unique),
    ("description", .ofText? f.description),
    ("example", .text f.sample),
    ("audited", .boolean f.audited),
    ("searchable", .boolean f.searchable) ]

/-- The members of a relationship. -/
def RelationshipModel.members (r : RelationshipModel) : List (String × Value) :=
  [ ("name", .text r.name),
    ("target", .text r.target),
    ("kind", .text r.cardinality.name),
    ("required", .boolean r.required),
    ("joinColumn", .ofText? r.joinColumn) ]

/-- An entity as JSON. -/
def EntityModel.encoded (m : EntityModel) : Value :=
  .object
    [ ("name", .text m.name),
      ("packageName", .text m.packageName),
      ("tableName", .text m.tableName),
      ("description", .ofText? m.description),
      ("fields", .list (m.fields.map fun f => .object f.members)),
      ("imports", .ofTexts m.imports),
      ("relationships", .list (m.relationships.map fun r => .object r.members)),
      ("resourceType", .text m.scope.name),
      ("isAuditable", .boolean m.auditable),
      ("isSearchable", .boolean m.searchable) ]

end EntityPlan
