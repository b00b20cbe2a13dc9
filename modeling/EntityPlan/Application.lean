import EntityPlan.Relationship
import EntityPlan.Source.OptionText

/-! # Applications — which entities go together

    An application claims the entities that it lists, or all of them by `*`, less
    those it excludes.  It needs a name; everything else has a default. -/

namespace EntityPlan

/-- Generation options of an application. -/
structure ApplicationOptions where
  dto : SortedMap String
  service : SortedMap String
  paginate : SortedMap String
  other : SortedMap (List String)
  deriving DecidableEq, Repr

/-- A declared application. -/
structure Application where
  name : String
  packageName : Option String
  applicationType : String
  entityList : List String
  excluded : List String
  options : ApplicationOptions
  deriving DecidableEq, Repr

namespace Application

/-- The list entry that stands for every entity. -/
def everyEntity : String := "*"

/-- The type of an application that names none. -/
def defaultType : String := "microservice"

/-- Options read as texts; those without a text are left out. -/
def textOptions (raw : Option (SortedMap Json.Value)) : SortedMap String :=
  (raw.getD .empty).filterMap Source.optionText

/-- Options read as lists; every key is kept. -/
def listOptions (raw : Option (SortedMap Json.Value)) : SortedMap (List String) :=
  (raw.getD .empty).map Source.optionList

/-- The application of a record. -/
def ofRecord (r : Source.ApplicationRecord) : Except Failure Application :=
  let config := r.config.getD {}
  let selection := r.entities.getD {}
  match given config.baseName with
  | none => .error (.malformedRecord "application" "<unnamed>" .namelessApplication)
  | some name =>
      .ok
        { name
          packageName := given config.packageName
          applicationType := config.applicationType.getD defaultType
          entityList := selection.listed.getD []
          excluded := selection.excluded.getD []
          options :=
            { dto := textOptions r.dto
              service := textOptions r.service
              paginate := textOptions r.paginate
              other := listOptions r.other } }

/-- The list contains the entry for every entity. -/
def claimsAll (a : Application) : Bool := a.entityList.contains everyEntity

/-- The entities listed by name, in order. -/
def listedEntities (a : Application) : List String := a.entityList.filter (· ≠ everyEntity)

/-- The application's output includes the entity. -/
def claims (a : Application) (entity : String) : Bool :=
  !a.excluded.contains entity && (a.claimsAll || a.entityList.contains entity)

end Application

end EntityPlan
