import EntityPlan.Model.Basic
import EntityPlan.Types.Table

/-! # Model rules — from declared entities to models

    An entity is classified first; then the type of each field is looked up, and
    the first one without a row is the failure.  In a whole model every
    relationship must lead to a declared entity, and that is looked at before any
    entity is built. -/

namespace EntityPlan

/-- What models are built by. -/
structure ModelRules where
  types : TypeTable
  basePackage : String
  policy : ScopePolicy

namespace ModelRules

/-- The package of an entity or application that names none. -/
def packageBelow (basePackage name : String) : String := basePackage ++ "." ++ Text.lower name

/-- The model of a field, given the row of its type. -/
def fieldOfRow (c : Classification) (f : Field) (row : TypeRow) : FieldModel where
  name := f.name
  type := f.type
  target := row.target
  importName := row.importName
  column := Naming.upperSnake f.name
  columnType := row.columnType
  domain := row.domain
  required := f.isRequired
  nullable := !f.isRequired
  unique := f.isUnique
  description := f.description
  sample := (f.annotation? "example").getD row.sample
  audited := c.auditable && !f.hasAnnotation "noAudit"
  searchable := c.searchable && !f.hasAnnotation "noSearch"

/-- The model of a field of `entity`. -/
def fieldModel (r : ModelRules) (entity : String) (c : Classification) (f : Field) :
    Except Failure FieldModel :=
  (r.types.resolve entity f.name f.type).map (fieldOfRow c f)

/-- The column that joins two entities by a relationship of this name. -/
def joinColumn (name : String) : String := Naming.snake name ++ "_id"

/-- The model of a relationship. -/
def relationshipModel (r : Relationship) : RelationshipModel where
  name := r.fieldName
  target := r.target
  cardinality := r.cardinality
  required := r.required
  joinColumn := if r.cardinality.isOwning then some (joinColumn r.fieldName) else none

/-- The table of an entity: its own table name, else the annotated one, else the
    name of the entity with its words apart. -/
def tableName (e : Entity) : String :=
  (e.tableName <|> e.annotation? "tableName").getD (Naming.snake e.name)

/-- The model of an entity, given its classification and its fields. -/
def entityOfFields (r : ModelRules) (e : Entity) (c : Classification) (fields : List FieldModel) :
    EntityModel where
  name := e.name
  packageName := packageBelow r.basePackage e.name
  tableName := tableName e
  description := e.description
  fields := fields
  imports := importsOf fields
  relationships := e.relationships.map relationshipModel
  scope := c.scope
  auditable := c.auditable
  searchable := c.searchable

/-- The model of an entity. -/
def entityModel (r : ModelRules) (e : Entity) : Traced EntityModel := do
  let c ← Classification.ofEntity r.policy e
  let fields ← .ofExcept (e.fields.mapM (r.fieldModel e.name c))
  return r.entityOfFields e c fields

/-- The first relationship of an entity that leads to none of the declared ones. -/
def strayOf? (declared : List String) (e : Entity) : Option Failure :=
  (e.relationships.find? fun r => !declared.contains r.target).map fun r =>
    .undeclaredTarget e.name r.fieldName r.target

/-- The first relationship that leads to no declared entity. -/
def stray? (entities : List Entity) : Option Failure :=
  entities.findSome? (strayOf? (entities.map (·.name)))

/-- The models of all entities, in order. -/
def models (r : ModelRules) (entities : List Entity) : Traced (List EntityModel) :=
  match stray? entities with
  | some f => .fail f
  | none => .each r.entityModel entities

end ModelRules

end EntityPlan
