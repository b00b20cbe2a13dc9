import EntityPlan.Relationship
import EntityPlan.Source.OptionText

/-! # Declared entities — records with what they need

    An entity needs a name and a list of fields, a field a name and a type.  Of
    annotations and validations those without a name are left out.  The order of
    declaration is kept throughout. -/

namespace EntityPlan

/-- An annotation `@name(value)` of an entity or a field. -/
structure Annotation where
  name : String
  value : Option String
  deriving DecidableEq, Repr

/-- A validation of a field. -/
structure Validation where
  name : String
  value : Option String
  deriving DecidableEq, Repr

/-- A declared field. -/
structure Field where
  name : String
  type : String
  description : Option String
  validations : List Validation
  annotations : List Annotation
  deriving DecidableEq, Repr

/-- A declared entity. -/
structure Entity where
  name : String
  tableName : Option String
  description : Option String
  fields : List Field
  annotations : List Annotation
  relationships : List Relationship
  deriving DecidableEq, Repr

/-- The annotation of a record that has a name. -/
def Annotation.ofRecord? (r : Source.OptionRecord) : Option Annotation :=
  r.name.map fun name => ⟨name, r.value.bind Source.optionText⟩

/-- The validation of a record that has a name. -/
def Validation.ofRecord? (r : Source.ValidationRecord) : Option Validation :=
  r.key.map fun name => ⟨name, r.value.bind Source.optionText⟩

namespace Annotation

/-- An annotation of this name is among them. -/
def present (annotations : List Annotation) (name : String) : Bool :=
  annotations.any (·.name == name)

/-- The value of the first annotation of this name, if that one has a value. -/
def firstValue? (annotations : List Annotation) (name : String) : Option String :=
  (annotations.find? (·.name == name)).bind (·.value)

end Annotation

namespace Field

/-- The field of a record of `entity`. -/
def ofRecord (entity : String) (r : Source.FieldRecord) : Except Failure Field :=
  match given r.name with
  | none => .error (.malformedRecord "field" entity .namelessField)
  | some name =>
      match given r.type with
      | none => .error (.malformedRecord "field" (entity ++ "." ++ name) .untypedField)
      | some type =>
          .ok
            { name
              type
              description := r.description
              validations := (r.validations.getD []).filterMap Validation.ofRecord?
              annotations := (r.annotations.getD []).filterMap Annotation.ofRecord? }

/-- The first validation of this name. -/
def validation? (f : Field) (name : String) : Option Validation :=
  f.validations.find? (·.name == name)

/-- Some validation of this name has no value or the value `true`. -/
def isFlagged (f : Field) (name : String) : Bool :=
  f.validations.any fun v => v.name == name && (v.value == none || v.value == some "true")

def isRequired (f : Field) : Bool := f.isFlagged "required"

def isUnique (f : Field) : Bool := f.isFlagged "unique"

/-- The value of the first annotation of this name. -/
def annotation? (f : Field) (name : String) : Option String :=
  Annotation.firstValue? f.annotations name

def hasAnnotation (f : Field) (name : String) : Bool := Annotation.present f.annotations name

end Field

namespace Entity

/-- The records declared from the entity of this name. -/
def ownRecords (name : String) (relationships : List Source.RelationshipRecord) :
    List Source.RelationshipRecord :=
  relationships.filter fun r => Relationship.declaredFrom r == some name

/-- The entity of a record.  `relationships` may be those of the whole document; the
    ones declared from other entities are not looked at. -/
def ofRecord (r : Source.EntityRecord) (relationships : List Source.RelationshipRecord) :
    Except Failure Entity := do
  match given r.name with
  | none => throw (.malformedRecord "entity" "<unnamed>" .namelessEntity)
  | some name =>
      match r.body with
      | none => throw (.malformedRecord "entity" name .noFieldList)
      | some body =>
          let fields ← body.mapM (Field.ofRecord name)
          let own ← (ownRecords name relationships).mapM (Relationship.ofRecord name)
          return {
            name
            tableName := given r.tableName
            description := r.description
            fields
            annotations := (r.annotations.getD []).filterMap Annotation.ofRecord?
            relationships := own }

def hasAnnotation (e : Entity) (name : String) : Bool := Annotation.present e.annotations name

/-- The value of the first annotation of this name. -/
def annotation? (e : Entity) (name : String) : Option String :=
  Annotation.firstValue? e.annotations name

/-- The values of all annotations of this name, in order. -/
def annotationValues (e : Entity) (name : String) : List String :=
  (e.annotations.filter (·.name == name)).filterMap (·.value)

end Entity

end EntityPlan
