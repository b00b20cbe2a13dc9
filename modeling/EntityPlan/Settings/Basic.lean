import EntityPlan.Path
import EntityPlan.Settings.TemplateKind
import EntityPlan.Settings.TypeOverride
import EntityPlan.SortedMap

/-! # Settings — what a run is told besides its documents -/

namespace EntityPlan

/-- Where templates and documents are found and output goes. -/
structure Directories where
  templates : Path := ⟨"templates"⟩
  input : Path := ⟨"jdl"⟩
  output : Path := ⟨"generated"⟩
  deriving DecidableEq, Repr

/-- How generated units are named and entities classified. -/
structure Generation where
  /-- the package above those of entities and applications -/
  basePackage : String := "net.blugrid.api"
  group : String := "net.blugrid.api"
  version : String := "0.1.0"
  /-- the group of the entities that no application claims -/
  defaultModule : String := "shared"
  /-- an entity with two scopes is refused -/
  strictScoping : Bool := false
  deriving DecidableEq, Repr

/-- The settings of a run. -/
structure Settings where
  logLevel : String := "info"
  directories : Directories := {}
  /-- template files that take the place of default ones -/
  templates : List (TemplateKind × String) := []
  generation : Generation := {}
  types : SortedMap TypeOverride := .empty
  deriving DecidableEq

end EntityPlan
