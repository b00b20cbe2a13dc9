import EntityPlan.Context.Basic
import EntityPlan.Model.Encoding

/-! # Contexts as JSON — elements and their places in one object

    The members of a list element stand beside those of its place, so the two must
    not share a name. -/

namespace EntityPlan

open Json (Value)

/-- The members of a field in a context. -/
def FieldContext.members (f : FieldContext) : List (String × Value) :=
  f.field.members ++ [("declaration", .text f.declaration)]

/-- The members of a column in a context. -/
def ColumnContext.members (c : ColumnContext) : List (String × Value) :=
  [("name", .text c.name), ("declaration", .text c.declaration), ("domain", .text c.domain)]

/-- The member of an element that is a text. -/
def valueMembers (s : String) : List (String × Value) := [("value", .text s)]

/-- A context as JSON. -/
def TemplateContext.encoded (c : TemplateContext) : Value :=
  .object
    [ ("packageName", .text c.packageName),
      ("name", .text c.name),
      ("nameLower", .text c.nameLower),
      ("nameUpperSnake", .text c.nameUpperSnake),
      ("tableName", .text c.tableName),
      ("description", .ofText? c.description),
      ("resourceType", .text c.resourceType),
      ("scope", .text c.scopeTag),
      ("baseColumnsTable", .text c.baseColumns),
      ("isAuditable", .boolean c.auditable),
      ("isSearchable", .boolean c.searchable),
      ("fields", .list (c.fields.map (Positioned.encoded FieldContext.members))),
      ("imports", .list (c.imports.map (Positioned.encoded valueMembers))),
      ("columns", .list (c.columns.map (Positioned.encoded ColumnContext.members))),
      ("relationships", .list (c.relationships.map (Positioned.encoded RelationshipModel.members))) ]

end EntityPlan
