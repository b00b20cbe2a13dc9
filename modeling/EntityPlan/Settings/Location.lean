import EntityPlan.Settings.Basic

/-! # Locations — where templates lie and generated units go

    Each application has three units, each with a directory of its own; the one
    that serves the interface bears the bare name of the application's directory.
    Source files stand below the unit, one directory for each part of a package. -/

namespace EntityPlan

/-- A generated unit of an application. -/
inductive UnitKind
  | model
  | db
  | api
  deriving DecidableEq, Repr

namespace UnitKind

/-- Every unit, in the order in which they build on each other. -/
def all : List UnitKind := [.model, .db, .api]

/-- The name of a unit. -/
def name : UnitKind → String
  | .model => "model"
  | .db => "db"
  | .api => "api"

/-- What the directory of a unit has behind the name of its application's. -/
def ending : UnitKind → String
  | .model => "-model"
  | .db => "-db"
  | .api => ""

end UnitKind

/-- The name of the directory of an application. -/
def unitBase (module : String) : String := "core-" ++ module ++ "-api"

namespace Settings

/-- The file of a template. -/
def templateFile (s : Settings) (kind : TemplateKind) : Path :=
  s.directories.templates.join ((s.templates.lookup kind).getD kind.defaultFile)

/-- The directory of a unit. -/
def unitDirectory (s : Settings) (module : String) (kind : UnitKind) : Path :=
  (s.directories.output.join (unitBase module)).join (unitBase module ++ kind.ending)

end Settings

/-- The directory of the source files of a package in the directory of a unit. -/
def sourceDirectory (unit : Path) (package : String) : Path :=
  (unit.join "src/main/kotlin").joinAll (Text.split '.' package)

end EntityPlan
