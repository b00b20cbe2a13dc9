import EntityPlan.Settings.Location

/-! # Layouts — the build units of an application

    An application has three units.  Those for the database and the interface
    build on the one for the model, which builds on nothing. -/

namespace EntityPlan

/-- A unit that another one builds on. -/
structure UnitDependency where
  domain : String
  kind : UnitKind
  deriving DecidableEq, Repr

/-- One build unit of an application. -/
structure UnitLayout where
  domain : String
  kind : UnitKind
  baseName : String
  packageName : String
  mainClass : String
  group : String
  version : String
  dependencies : List UnitDependency
  includesDb : Bool
  includesWebService : Bool
  includesSecurity : Bool
  includesTest : Bool
  deriving DecidableEq, Repr

/-- The unit builds on that of the model. -/
def UnitKind.needsModel : UnitKind → Bool
  | .model => false
  | .db | .api => true

namespace UnitLayout

/-- The layout of one unit. -/
def ofKind (domain packageName : String) (g : Generation) (kind : UnitKind) : UnitLayout where
  domain := domain
  kind := kind
  baseName := unitBase domain
  packageName := packageName
  mainClass := packageName ++ ".ApplicationKt"
  group := g.group
  version := g.version
  dependencies := if kind.needsModel then [⟨domain, .model⟩] else []
  includesDb := kind.needsModel
  includesWebService := false
  includesSecurity := false
  includesTest := kind.needsModel

/-- The layouts of all units of an application. -/
def all (domain packageName : String) (g : Generation) : List UnitLayout :=
  UnitKind.all.map (ofKind domain packageName g)

/-- The name of a unit. -/
def name (l : UnitLayout) : String := l.baseName ++ "-" ++ l.kind.name

/-- The build files of every unit. -/
def buildFiles : List String :=
  ["build.gradle.kts", "gradle.properties", "gradlew", "gradlew.bat"]

end UnitLayout

end EntityPlan
